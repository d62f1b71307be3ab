import Std.Data.ExtTreeMap

/-! What maps hold after an entry was set or erased. -/
namespace RecordStore.Keyed

variable {κ α : Type} [Ord κ] [Std.TransOrd κ] {m : Std.ExtTreeMap κ α} {k k' : κ} {v v' : α}

/-- Nothing is held after an entry was erased that was not there before. -/
theorem of_getElem?_erase (h : (m.erase k)[k']? = some v') : m[k']? = some v' := by
  rw [Std.ExtTreeMap.getElem?_erase] at h
  exact (Option.ite_none_left_eq_some.mp h).2

variable [Std.LawfulEqOrd κ]

theorem getElem?_insert_of_ne (h : k' ≠ k) (v : α) : (m.insert k v)[k']? = m[k']? := by
  have hne : ¬ compare k k' = .eq := fun e => h (Std.LawfulEqCmp.eq_of_compare e).symm
  rw [Std.ExtTreeMap.getElem?_insert, if_neg hne]

theorem getElem?_erase_of_ne (h : k' ≠ k) : (m.erase k)[k']? = m[k']? := by
  have hne : ¬ compare k k' = .eq := fun e => h (Std.LawfulEqCmp.eq_of_compare e).symm
  rw [Std.ExtTreeMap.getElem?_erase, if_neg hne]

/-- What a map holds after an entry was set is that entry, or was there before. -/
theorem of_getElem?_insert (h : (m.insert k v)[k']? = some v') :
    k' = k ∧ v' = v ∨ m[k']? = some v' := by
  rw [Std.ExtTreeMap.getElem?_insert] at h
  by_cases hk : compare k k' = .eq
  · rw [if_pos hk] at h
    exact .inl ⟨(Std.LawfulEqCmp.eq_of_compare hk).symm, (Option.some.inj h).symm⟩
  · rw [if_neg hk] at h
    exact .inr h

theorem insert_self (h : m[k]? = some v) : m.insert k v = m := by
  apply Std.ExtTreeMap.ext_getElem?
  intro k'
  by_cases hk : k' = k
  · rw [hk, Std.ExtTreeMap.getElem?_insert_self, h]
  · exact getElem?_insert_of_ne hk v

theorem insert_insert (v v' : α) : (m.insert k v).insert k v' = m.insert k v' := by
  apply Std.ExtTreeMap.ext_getElem?
  intro k'
  by_cases hk : k' = k
  · rw [hk, Std.ExtTreeMap.getElem?_insert_self, Std.ExtTreeMap.getElem?_insert_self]
  · rw [getElem?_insert_of_ne hk, getElem?_insert_of_ne hk, getElem?_insert_of_ne hk]

theorem erase_of_none (h : m[k]? = none) : m.erase k = m := by
  apply Std.ExtTreeMap.ext_getElem?
  intro k'
  by_cases hk : k' = k
  · rw [hk, Std.ExtTreeMap.getElem?_erase_self, h]
  · exact getElem?_erase_of_ne hk

end RecordStore.Keyed

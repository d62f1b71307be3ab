import RecordStore.Engine.QueryTable
import RecordStore.Proofs.Keyed
import RecordStore.Proofs.Outcome

/-! The table of the queries: what is found under a handle, which handle comes next, and when there
is none left. -/
namespace RecordStore

section

variable {a n : UInt64} (h : n ≠ 18446744073709551615)
include h

/-- Counting on overflows at the highest number alone. -/
theorem toNat_add_one : (n + 1).toNat = n.toNat + 1 := by
  have hlt := n.toNat_lt
  have hne : n.toNat ≠ 18446744073709551615 := fun e => h (UInt64.toNat_inj.mp e)
  rw [UInt64.toNat_add]
  exact Nat.mod_eq_of_lt (by simp only [UInt64.toNat_one]; omega)

theorem lt_add_one_of_le (hle : a ≤ n) : a < n + 1 := by
  rw [UInt64.lt_iff_toNat_lt, toNat_add_one h]
  exact Nat.lt_succ_of_le (UInt64.le_iff_toNat_le.mp hle)

end

namespace QueryTable

variable {t : QueryTable} {handle : UInt64} {q : CompiledQuery}

theorem compiled_eq_ok :
    t.compiled handle = .ok q ↔ t.poisoned = false ∧ t.opened[handle]? = some q := by
  rw [compiled]
  cases t.poisoned with
  | true => simp
  | false => cases t.opened[handle]? <;> simp

theorem compiled_of_opened (h : t.opened[handle]? = some q) :
    t.compiled handle = if t.poisoned then .error .queriesPoisoned else .ok q := by
  rw [compiled, h]

theorem compiled_of_poisoned (h : t.poisoned = true) (handle : UInt64) :
    t.compiled handle = .error .queriesPoisoned := if_pos h

theorem opened_replace (t : QueryTable) (handle : UInt64) (q : CompiledQuery) :
    (t.replace handle q).opened = t.opened.insert handle q := rfl

theorem opened_keep (t : QueryTable) (q : CompiledQuery) :
    (t.keep q).opened = t.opened.insert (t.issued + 1) q := rfl

theorem opened_erase (t : QueryTable) (handle : UInt64) :
    (t.erase handle).opened = t.opened.erase handle := rfl

theorem replace_self (h : t.opened[handle]? = some q) : t.replace handle q = t := by
  rw [replace, Keyed.insert_self h]

theorem replace_replace (t : QueryTable) (handle : UInt64) (q q' : CompiledQuery) :
    (t.replace handle q).replace handle q' = t.replace handle q' := by
  simp only [replace, Keyed.insert_insert]

theorem compiled_replace_self (h : t.poisoned = false) (handle : UInt64) (q : CompiledQuery) :
    (t.replace handle q).compiled handle = .ok q :=
  compiled_eq_ok.mpr ⟨h, Std.ExtTreeMap.getElem?_insert_self⟩

theorem compiled_replace_of_ne {other : UInt64} (h : other ≠ handle) (q : CompiledQuery) :
    (t.replace handle q).compiled other = t.compiled other := by
  simp only [compiled, replace, Keyed.getElem?_insert_of_ne h]

/-- A table gives the next handle until all have been given. Asking for one more ends in an
overflow, after which the table gives none. -/
theorem issue_cases (t : QueryTable) (q : CompiledQuery) :
    t.poisoned = true ∧ t.issue q = (.error (.error .queriesPoisoned), t) ∨
      (t.poisoned = false ∧ t.issued = maxHandle ∧
        t.issue q = (.error (.overflow .addition), { t with poisoned := true })) ∨
      (t.poisoned = false ∧ t.issued ≠ maxHandle ∧
        t.issue q = (.ok (t.issued + 1), t.keep q)) := by
  rw [issue]
  cases hp : t.poisoned with
  | true => exact .inl ⟨rfl, if_pos rfl⟩
  | false =>
    refine .inr ?_
    by_cases hi : t.issued = maxHandle
    · exact .inl ⟨rfl, hi, by simp [hi]⟩
    · -- A number that does not overflow has a successor that is not zero.
      have hne : t.issued + 1 ≠ 0 := by
        intro he
        have hnat := toNat_add_one hi
        rw [he] at hnat
        simp at hnat
      exact .inr ⟨rfl, hi, by simp [hi, hne]⟩

theorem issue_of_ne (hp : t.poisoned = false) (hi : t.issued ≠ maxHandle) (q : CompiledQuery) :
    t.issue q = (.ok (t.issued + 1), t.keep q) := by
  rcases t.issue_cases q with ⟨h, -⟩ | ⟨-, h, -⟩ | ⟨-, -, h⟩
  · rw [hp] at h
    cases h
  · exact absurd h hi
  · exact h

/-- What so many requests for handles can have led to: no more handles were given, and an overflow
takes as many requests as there are numbers. -/
structure Within (t : QueryTable) (requests : Nat) : Prop where
  issued_le : t.issued.toNat ≤ requests
  size_le : t.poisoned = true → UInt64.size ≤ requests

theorem within_empty : empty.Within 0 := ⟨Nat.le_refl _, nofun⟩

namespace Within

variable {n k : Nat}

theorem mono (h : t.Within n) (hle : n ≤ k) : t.Within k :=
  ⟨Nat.le_trans h.issued_le hle, fun hp => Nat.le_trans (h.size_le hp) hle⟩

theorem keep (h : t.Within n) (hp : t.poisoned = false) (hi : t.issued ≠ maxHandle)
    (q : CompiledQuery) : (t.keep q).Within (n + 1) := by
  refine ⟨?_, fun hp' => absurd (hp.symm.trans hp') (by decide)⟩
  exact Nat.le_trans (Nat.le_of_eq (toNat_add_one hi)) (Nat.succ_le_succ h.issued_le)

theorem overflow (h : t.Within n) (hi : t.issued = maxHandle) :
    ({ t with poisoned := true } : QueryTable).Within (n + 1) := by
  refine ⟨Nat.le_succ_of_le h.issued_le, fun _ => ?_⟩
  have hle := h.issued_le
  rw [hi] at hle
  exact Nat.succ_le_succ hle

theorem replace (h : t.Within n) (handle : UInt64) (q : CompiledQuery) :
    (t.replace handle q).Within n := ⟨h.issued_le, h.size_le⟩

theorem erase (h : t.Within n) (handle : UInt64) : (t.erase handle).Within n :=
  ⟨h.issued_le, h.size_le⟩

/-- While fewer handles were asked for than there are, there is another one. -/
theorem sound (h : t.Within n) (hn : n < maxHandle.toNat) :
    t.poisoned = false ∧ t.issued ≠ maxHandle := by
  refine ⟨Bool.eq_false_iff.mpr fun hp => ?_, fun hi => ?_⟩
  · exact absurd (Nat.lt_of_lt_of_le hn (Nat.le_of_lt (maxHandle.toNat_lt)))
      (Nat.not_lt_of_le (h.size_le hp))
  · exact absurd (hi ▸ h.issued_le) (Nat.not_le_of_lt hn)

end Within

end QueryTable

end RecordStore

import RecordStore.Schema.ErrorTree

/-! Messages are counted: adding and merging lose none and repeat none. -/
namespace RecordStore.ErrorTree

@[simp] theorem size_node (ms : List String) (cs : List (String × ErrorTree)) :
    (node ms cs).size = ms.length + totalSize cs := by rw [size]

@[simp] theorem totalSize_nil : totalSize [] = 0 := by rw [totalSize]

@[simp] theorem totalSize_cons (key : String) (t : ErrorTree) (rest : List (String × ErrorTree)) :
    totalSize ((key, t) :: rest) = t.size + totalSize rest := by rw [totalSize]

mutual

theorem isEmpty_iff : (t : ErrorTree) → (t.isEmpty = true ↔ t.size = 0)
  | node ms cs => by
    have hcs := allEmpty_iff cs
    rw [isEmpty, size_node, Bool.and_eq_true, hcs, List.isEmpty_iff, ← List.length_eq_zero_iff]
    omega

theorem allEmpty_iff : (cs : List (String × ErrorTree)) → (allEmpty cs = true ↔ totalSize cs = 0)
  | [] => by simp [allEmpty]
  | (_, t) :: rest => by
    have ht := isEmpty_iff t
    have hrest := allEmpty_iff rest
    rw [allEmpty, totalSize_cons, Bool.and_eq_true, ht, hrest]
    omega

end

@[simp] theorem size_append (t : ErrorTree) (ms : List String) :
    (t.append ms).size = t.size + ms.length := by
  cases t
  rw [append, size_node, size_node, messages, children, List.length_append]
  omega

theorem totalSize_updateKey {f : ErrorTree → ErrorTree} {n : Nat}
    (hf : ∀ t, (f t).size = t.size + n) (key : String) (cs : List (String × ErrorTree)) :
    totalSize (updateKey key f cs) = totalSize cs + n := by
  induction cs with
  | nil => simp [updateKey, hf]
  | cons child rest ih =>
    obtain ⟨k, t⟩ := child
    rw [updateKey]
    by_cases he : key = k
    · rw [if_pos he, totalSize_cons, totalSize_cons, hf]
      omega
    · rw [if_neg he]
      by_cases hlt : key < k
      · rw [if_pos hlt, totalSize_cons, hf, size_empty]
        omega
      · rw [if_neg hlt, totalSize_cons, totalSize_cons, ih]
        omega

theorem size_updateChild {f : ErrorTree → ErrorTree} {n : Nat}
    (hf : ∀ t, (f t).size = t.size + n) (key : String) (t : ErrorTree) :
    (t.updateChild key f).size = t.size + n := by
  cases t
  rw [updateChild, size_node, size_node, totalSize_updateKey hf]
  omega

mutual

theorem size_merge (t : ErrorTree) :
    (other : ErrorTree) → (t.merge other).size = t.size + other.size
  | node ms cs => by
    have hcs := size_mergeAll (t.append ms) cs
    rw [merge, hcs, size_append, size_node]
    omega

theorem size_mergeAll (t : ErrorTree) :
    (cs : List (String × ErrorTree)) → (t.mergeAll cs).size = t.size + totalSize cs
  | [] => by rw [mergeAll, totalSize_nil, Nat.add_zero]
  | (key, u) :: rest => by
    have hrest := size_mergeAll (if u.isEmpty then t else t.updateChild key fun c => c.merge u) rest
    have hu := size_updateChild (fun c => size_merge c u) key t
    rw [mergeAll, hrest, totalSize_cons]
    by_cases he : u.isEmpty = true
    · have := (isEmpty_iff u).mp he
      rw [if_pos he]
      omega
    · rw [if_neg he, hu]
      omega

end

theorem size_mergeFor (t : ErrorTree) (key : String) (other : ErrorTree) :
    (t.mergeFor key other).size = t.size + other.size := by
  rw [mergeFor]
  by_cases he : other.isEmpty = true
  · have := (isEmpty_iff other).mp he
    rw [if_pos he]
    omega
  · rw [if_neg he, size_updateChild (fun c => size_merge c other)]

/-- A check succeeds if nothing was reported. -/
theorem result_eq_ok {t : ErrorTree} : t.result = .ok () ↔ t.size = 0 := by
  rw [← isEmpty_iff, result]
  by_cases he : t.isEmpty = true <;> simp [he]

end RecordStore.ErrorTree

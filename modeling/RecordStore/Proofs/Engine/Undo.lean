import RecordStore.Engine.Cursor
import RecordStore.Proofs.Outcome

/-! The log of a cursor: whatever calls were made, undoing it gives the rows at the start. -/
namespace RecordStore

abbrev Entries := Std.ExtTreeMap UInt64 ByteArray

namespace UndoLog

theorem restore_insert (entries : Entries) (id : UInt64) (data : ByteArray) :
    restore (entries.insert id data) (id, entries[id]?) = entries := by
  apply Std.ExtTreeMap.ext_getElem?
  intro k
  cases h : entries[id]? with
  | none =>
    rw [restore, Std.ExtTreeMap.getElem?_erase, Std.ExtTreeMap.getElem?_insert]
    by_cases hk : id = k
    · subst hk
      simp [h]
    · simp [hk]
  | some prior =>
    rw [restore, Std.ExtTreeMap.getElem?_insert, Std.ExtTreeMap.getElem?_insert]
    by_cases hk : id = k
    · subst hk
      simp [h]
    · simp [hk]

theorem restore_erase {entries : Entries} {id : UInt64} {prior : ByteArray}
    (h : entries[id]? = some prior) :
    restore (entries.erase id) (id, some prior) = entries := by
  apply Std.ExtTreeMap.ext_getElem?
  intro k
  rw [restore, Std.ExtTreeMap.getElem?_insert, Std.ExtTreeMap.getElem?_erase]
  by_cases hk : id = k
  · subst hk
    simp [h]
  · simp [hk]

/-- Rows that were recorded one after the other come back together. -/
theorem foldl_restore_empty (entries : Entries) :
    (entries.toList.reverse.map fun row => (row.1, some row.2)).foldl restore ∅ = entries := by
  -- The rows go in backwards, which makes no difference only because their ids differ.
  have hfold (rows : List (UInt64 × ByteArray))
      (hd : rows.Pairwise fun a b => ¬ compare a.1 b.1 = .eq) (k : UInt64) (v : ByteArray) :
      ((rows.reverse.map fun row => (row.1, some row.2)).foldl restore ∅)[k]? = some v ↔
        (k, v) ∈ rows := by
    induction rows with
    | nil => simp
    | cons row rows ih =>
      obtain ⟨id, data⟩ := row
      rw [List.pairwise_cons] at hd
      rw [List.reverse_cons, List.map_append, List.foldl_append, List.map_cons, List.map_nil,
        List.foldl_cons, List.foldl_nil, restore, Std.ExtTreeMap.getElem?_insert, List.mem_cons]
      by_cases hk : compare id k = .eq
      · rw [if_pos hk]
        have he : id = k := Std.LawfulEqCmp.eq_of_compare hk
        subst he
        constructor
        · rintro ⟨⟩
          exact .inl rfl
        · rintro (he | hm)
          · cases he
            rfl
          · exact absurd hk (hd.1 _ hm)
      · rw [if_neg hk, ih hd.2]
        have hne : (k, v) ≠ (id, data) := by
          rintro ⟨⟩
          exact hk Std.ReflCmp.compare_self
        simp [hne]
  apply Std.ExtTreeMap.ext_getElem?
  intro k
  apply Option.ext
  intro v
  rw [hfold _ Std.ExtTreeMap.distinct_keys_toList, Std.ExtTreeMap.mem_toList_iff_getElem?_eq_some]

theorem prior_foldl_record (rows : List (UInt64 × ByteArray)) (log : UndoLog) :
    rows.foldl (fun log (id, bytes) => log.record id (some bytes)) log =
      ⟨log.lastId, (rows.reverse.map fun row => (row.1, some row.2)) ++ log.prior⟩ := by
  induction rows generalizing log with
  | nil => rfl
  | cons row rows ih =>
    rw [List.foldl_cons, ih]
    simp [record]

end UndoLog

namespace Cursor

/-- The rows that undoing would give. -/
def restored (c : Cursor) : Rows := c.log.rollback c.rows

theorem restored_start (entity : ModelEntity) (queries : QueryTable) (writable : Bool)
    (rows : Rows) : (start entity queries writable rows).restored = rows := rfl

theorem restored_setLastId (c : Cursor) (lastId : UInt64) :
    { c with rows := { c.rows with lastId := lastId } : Cursor }.restored = c.restored := rfl

theorem restored_put (c : Cursor) (id lastId : UInt64) (data : ByteArray) :
    { c with
      rows := ⟨c.rows.entries.insert id data, lastId⟩
      log := c.log.record id c.rows.entries[id]? : Cursor }.restored = c.restored := by
  simp only [restored, UndoLog.rollback, UndoLog.record, List.foldl_cons,
    UndoLog.restore_insert]

theorem restored_discard (c : Cursor) (id : UInt64) : (c.discard id).restored = c.restored := by
  rw [discard]
  cases h : c.rows.entries[id]? with
  | none => rfl
  | some prior =>
    simp only [restored, UndoLog.rollback, UndoLog.record, List.foldl_cons,
      UndoLog.restore_erase h]

theorem restored_foldl_discard (c : Cursor) (rows : List (UInt64 × ByteArray)) :
    (rows.foldl (fun c row => c.discard row.1) c).restored = c.restored := by
  induction rows generalizing c with
  | nil => rfl
  | cons row rows ih => rw [List.foldl_cons, ih, restored_discard]

theorem restored_removeAll (c : Cursor) :
    { c with
      rows := { c.rows with entries := ∅ }
      log := c.rows.entries.toList.foldl (fun log (id, bytes) => log.record id (some bytes))
        c.log : Cursor }.restored = c.restored := by
  simp only [restored, UndoLog.rollback, UndoLog.prior_foldl_record, List.foldl_append,
    UndoLog.foldl_restore_empty]

end Cursor

end RecordStore

import RecordStore.Proofs.Store.Shelf

/-! Rows of encoded records and the shelf of the records that they hold. -/
namespace RecordStore

/-- Rows hold the encodings of the records of a shelf. -/
structure Stands (b : Binding) (rows : Rows) (shelf : Shelf b.types) : Prop where
  records_eq : rows.entries.map (fun _ bytes => b.decode bytes) = shelf.records.map fun _ r => .ok r
  counter_eq : rows.lastId = shelf.counter

namespace Stands

variable {b : Binding} {rows : Rows} {shelf : Shelf b.types}

theorem decode_getElem? (h : Stands b rows shelf) (id : UInt64) :
    rows.entries[id]?.map b.decode = shelf.records[id]?.map .ok := by
  have hget := congrArg (fun t : Std.ExtTreeMap UInt64 _ => t[id]?) h.records_eq
  simpa using hget

theorem decodeAll_buffers (h : Stands b rows shelf) :
    b.decodeAll rows.buffers = .ok (shelf.records.toList.map (·.2)) := by
  have hlist := congrArg (fun t => (Std.ExtTreeMap.toList t).map (·.2)) h.records_eq
  simp only [Std.ExtTreeMap.toList_map, List.map_map, Function.comp_def] at hlist
  rw [Binding.decodeAll, mapM_eq_ok, Rows.buffers, List.map_map, List.map_map]
  exact hlist

theorem contains_eq (h : Stands b rows shelf) (id : UInt64) :
    rows.entries.contains id = shelf.records.contains id := by
  have hc := congrArg (fun t => Std.ExtTreeMap.contains t id) h.records_eq
  simpa using hc

theorem size_eq (h : Stands b rows shelf) : rows.entries.size = shelf.records.size := by
  have hs := congrArg Std.ExtTreeMap.size h.records_eq
  simpa using hs

theorem empty (b : Binding) : Stands b .empty ⟨∅, 0⟩ := by
  refine ⟨?_, rfl⟩
  apply Std.ExtTreeMap.ext_getElem?
  intro k
  simp [Rows.empty]

theorem insert (h : Stands b rows shelf) {bytes : ByteArray} {r : Record b.types}
    (hd : b.decode bytes = .ok r) (id counter : UInt64) :
    Stands b ⟨rows.entries.insert id bytes, counter⟩ ⟨shelf.records.insert id r, counter⟩ := by
  refine ⟨?_, rfl⟩
  apply Std.ExtTreeMap.ext_getElem?
  intro k
  rw [Std.ExtTreeMap.getElem?_map, Std.ExtTreeMap.getElem?_map, Std.ExtTreeMap.getElem?_insert,
    Std.ExtTreeMap.getElem?_insert]
  by_cases hk : compare id k = .eq
  · rw [if_pos hk, if_pos hk, Option.map_some, Option.map_some, hd]
  · rw [if_neg hk, if_neg hk]
    exact h.decode_getElem? k

theorem erase (h : Stands b rows shelf) (id : UInt64) :
    Stands b { rows with entries := rows.entries.erase id }
      { shelf with records := shelf.records.erase id } := by
  refine ⟨?_, h.counter_eq⟩
  apply Std.ExtTreeMap.ext_getElem?
  intro k
  rw [Std.ExtTreeMap.getElem?_map, Std.ExtTreeMap.getElem?_map, Std.ExtTreeMap.getElem?_erase,
    Std.ExtTreeMap.getElem?_erase]
  by_cases hk : compare id k = .eq
  · rw [if_pos hk, if_pos hk]
    rfl
  · rw [if_neg hk, if_neg hk]
    exact h.decode_getElem? k

theorem clear (h : Stands b rows shelf) :
    Stands b { rows with entries := ∅ } { shelf with records := ∅ } := by
  refine ⟨?_, h.counter_eq⟩
  apply Std.ExtTreeMap.ext_getElem?
  intro k
  simp

end Stands

end RecordStore

import Mathlib.Data.List.Nodup
import RecordStore.Proofs.Record.Children

/-! The table of a record, filled field by field. -/
namespace RecordStore

open Buffer

namespace Buffer.OpenTable

/-- What a slot holds: the cell if there is one, and nothing otherwise. -/
def Holds (t : OpenTable) (slot : UInt16) : Option Cell → Prop
  | some cell => (slot, cell) ∈ t.fields.toList
  | none => slot ∉ t.fields.toList.map (·.1)

end Buffer.OpenTable

namespace Binding

/-- A field with its value and the child of the value. -/
abbrev Entry := BoundField × Value × Option Offset

/-- The value that is stored for a field: the identifier takes the given id. -/
def stored (id : UInt64) (f : BoundField) (v : Value) : Value :=
  if f.property.isIdentifier then .u64 id else v

def slotOf (entry : Entry) : UInt16 := entry.1.property.slot

def valueOf (id : UInt64) (entry : Entry) : Value := stored id entry.1 entry.2.1

def cellOf (id : UInt64) (entry : Entry) : Option Cell := (valueOf id entry).cell? entry.2.2

/-- The table with the fields of entries. -/
def fill (id : UInt64) (t : OpenTable) (entries : List Entry) : OpenTable :=
  entries.foldl (fun t entry => t.put (slotOf entry) (cellOf id entry)) t

theorem writeField_eq {b : Builder} {t : OpenTable} (id : UInt64) (entry : Entry)
    (ht : b.table = some t) (hc : t.check (slotOf entry) = .ok ())
    (ho : ∀ offset ∈ entry.2.2, b.couldHold offset = true) :
    writeField id b entry =
      if (valueOf id entry).fits then
        .ok { b with table := some (t.put (slotOf entry) (cellOf id entry)) }
      else .error (.slotOverflow (slotOf entry)) := by
  obtain ⟨f, v, child⟩ := entry
  simp only [slotOf] at hc
  simp only [writeField, cellOf, valueOf, stored, slotOf]
  by_cases hi : f.property.isIdentifier
  · simp only [hi, if_true, Value.fits, Value.cell?, Builder.push_eq ht hc]
  · simp only [hi, Bool.false_eq_true, if_false, Value.writeSlot_eq v ht hc ho]

section

variable {id : UInt64} {t : OpenTable} {entries : List Entry}

theorem fields_fill : (fill id t entries).fields.toList =
    t.fields.toList ++
      entries.filterMap fun entry => (cellOf id entry).map (slotOf entry, ·) := by
  induction entries generalizing t with
  | nil => simp [fill]
  | cons entry entries ih =>
    have hf := @ih (t.put (slotOf entry) (cellOf id entry))
    rw [OpenTable.fields_put] at hf
    rw [fill, List.foldl_cons, ← fill, hf, List.filterMap_cons]
    cases cellOf id entry <;> simp

@[simp] theorem slotCount_fill : (fill id t entries).slotCount = t.slotCount := by
  induction entries generalizing t with
  | nil => rfl
  | cons entry entries ih =>
    rw [fill, List.foldl_cons, ← fill, ih, OpenTable.slotCount_put]

theorem slots_fill_sublist :
    ((fill id t entries).fields.toList.map (·.1)).Sublist
      (t.fields.toList.map (·.1) ++ entries.map slotOf) := by
  rw [fields_fill, List.map_append]
  refine List.Sublist.append (List.Sublist.refl _) ?_
  induction entries with
  | nil => simp
  | cons entry entries ih =>
    rw [List.filterMap_cons, List.map_cons]
    cases cellOf id entry with
    | none => exact ih.cons _
    | some cell => exact ih.cons_cons _

/-- Entries with slots of their own are written up to the first value that does not fit. -/
theorem foldlM_writeField {b : Builder} (ht : b.table = some t)
    (hs : ∀ entry ∈ entries, slotOf entry < t.slotCount)
    (nodup : (t.fields.toList.map (·.1) ++ entries.map slotOf).Nodup)
    (ho : ∀ entry ∈ entries, ∀ offset ∈ entry.2.2, b.couldHold offset = true) :
    entries.foldlM (writeField id) b =
      match entries.find? fun entry => !(valueOf id entry).fits with
      | some entry => .error (.slotOverflow (slotOf entry))
      | none => .ok { b with table := some (fill id t entries) } := by
  -- The slots of the fields so far and of the entries to come are distinct all along.
  induction entries generalizing b t with
  | nil => simp [fill, ← ht]
  | cons entry entries ih =>
    obtain ⟨hnew, hrest⟩ := OpenTable.nodup_put (cellOf id entry) nodup
    have hc := OpenTable.check_eq_ok (hs entry (by simp)) hnew
    rw [List.foldlM_cons, writeField_eq id entry ht hc (ho entry (by simp)), List.find?_cons]
    by_cases hf : (valueOf id entry).fits
    · have hfill : fill id t (entry :: entries) =
          fill id (t.put (slotOf entry) (cellOf id entry)) entries := rfl
      rw [if_pos hf, ok_bind, hfill]
      simp only [hf, Bool.not_true]
      refine @ih (t.put (slotOf entry) (cellOf id entry))
        { b with table := some (t.put (slotOf entry) (cellOf id entry)) } rfl ?_ hrest ?_
      · intro next hn
        rw [OpenTable.slotCount_put]
        exact hs next (by simp [hn])
      · intro next hn
        exact ho next (by simp [hn])
    · simp [hf]

theorem wellFormed_fill {slotCount : UInt16} (hle : slotCount.toNat ≤ maxSlots)
    (hs : ∀ entry ∈ entries, slotOf entry < slotCount) (nodup : (entries.map slotOf).Nodup) :
    (fill id ⟨slotCount, #[]⟩ entries).WellFormed := by
  have hsub := @slots_fill_sublist id ⟨slotCount, #[]⟩ entries
  rw [show (#[] : Array (UInt16 × Cell)).toList.map (·.1) ++ entries.map slotOf =
    entries.map slotOf from rfl] at hsub
  refine ⟨nodup.sublist hsub, ?_, by rw [slotCount_fill]; exact hle⟩
  intro field hf
  obtain ⟨entry, he, hslot⟩ := List.mem_map.mp (hsub.subset (List.mem_map_of_mem (f := (·.1)) hf))
  rw [slotCount_fill, ← hslot]
  exact hs entry he

/-- A filled table holds the cell of every entry. -/
theorem holds_fill {slotCount : UInt16} (nodup : (entries.map slotOf).Nodup) {entry : Entry}
    (he : entry ∈ entries) :
    (fill id ⟨slotCount, #[]⟩ entries).Holds (slotOf entry) (cellOf id entry) := by
  have hf : (fill id ⟨slotCount, #[]⟩ entries).fields.toList =
      entries.filterMap fun entry => (cellOf id entry).map (slotOf entry, ·) := by
    rw [fields_fill, List.nil_append]
  cases hc : cellOf id entry with
  | some cell =>
    rw [OpenTable.Holds, hf, List.mem_filterMap]
    exact ⟨entry, he, by rw [hc, Option.map_some]⟩
  | none =>
    rw [OpenTable.Holds, hf]
    intro hm
    -- A field in this slot would be that of another entry.
    obtain ⟨field, hfield, hslot⟩ := List.mem_map.mp hm
    obtain ⟨other, ho, hcell⟩ := List.mem_filterMap.mp hfield
    obtain ⟨cell, hother, rfl⟩ := Option.map_eq_some_iff.mp hcell
    have hsame : other = entry := List.inj_on_of_nodup_map nodup ho he hslot
    rw [hsame, hc] at hother
    cases hother

/-- A filled table holds nothing in a slot that no entry has. -/
theorem holds_fill_none {slotCount slot : UInt16} (hs : slot ∉ entries.map slotOf) :
    (fill id ⟨slotCount, #[]⟩ entries).Holds slot none := fun hm =>
  hs (by simpa using slots_fill_sublist.subset hm)

end

end Binding

end RecordStore

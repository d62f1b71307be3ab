import RecordStore.Proofs.Buffer.Reading
import RecordStore.Proofs.Number.Zero
import RecordStore.Record.Codec

/-! What writing a value does to the open table: a value takes up a cell, unless it is the one that
readers fall back to. -/
namespace RecordStore

open Buffer

namespace Buffer

/-- The cell of a value of a fixed width, unless readers fall back to the value. -/
def scalarCell {α : Type} [Scalar α] (value default : α) : Option Cell :=
  if Scalar.same value default then none else some (.inline (Scalar.bytes value))

namespace OpenTable

/-- The table with one more field, if there is a cell for it. -/
def put (t : OpenTable) (slot : UInt16) : Option Cell → OpenTable
  | none => t
  | some cell => t.push slot cell

theorem fields_put (t : OpenTable) (slot : UInt16) (cell : Option Cell) :
    (t.put slot cell).fields.toList = t.fields.toList ++ (cell.map (slot, ·)).toList := by
  cases cell <;> simp [put, push]

@[simp] theorem slotCount_put (t : OpenTable) (slot : UInt16) (cell : Option Cell) :
    (t.put slot cell).slotCount = t.slotCount := by
  cases cell <;> rfl

/-- Slots that are distinct stay so when a field moves into the table. -/
theorem nodup_put {t : OpenTable} {slot : UInt16} {slots : List UInt16} (cell : Option Cell)
    (h : (t.fields.toList.map (·.1) ++ slot :: slots).Nodup) :
    slot ∉ t.fields.toList.map (·.1) ∧
      ((t.put slot cell).fields.toList.map (·.1) ++ slots).Nodup := by
  constructor
  · intro hm
    exact (List.nodup_append.mp h).2.2 _ hm _ (by simp) rfl
  · rw [fields_put]
    refine h.sublist ?_
    cases cell with
    | none => simp
    | some cell => simp

theorem check_eq_ok {t : OpenTable} {slot : UInt16} (hs : slot < t.slotCount)
    (hn : slot ∉ t.fields.toList.map (·.1)) : t.check slot = .ok () := by
  have hle : ¬ t.slotCount ≤ slot := UInt16.not_le.mpr hs
  have hhas : t.has slot = false := by
    rw [has, Array.any_eq_false']
    intro field hf
    have hne : field.1 ≠ slot := by
      rintro rfl
      exact hn (List.mem_map_of_mem (f := (·.1)) (Array.mem_toList_iff.mpr hf))
    simpa using hne
  simp [check, hle, hhas]

end OpenTable

namespace Builder

variable {b : Builder} {t : OpenTable} {slot : UInt16}

theorem tableFor_eq (ht : b.table = some t) (hc : t.check slot = .ok ()) :
    b.tableFor slot = .ok t := by
  simp [tableFor, ht, hc]

theorem push_eq {α : Type} [Scalar α] (ht : b.table = some t) (hc : t.check slot = .ok ())
    (value default : α) :
    b.push slot value default =
      .ok { b with table := some (t.put slot (scalarCell value default)) } := by
  rw [push, tableFor_eq ht hc, ok_bind, scalarCell]
  by_cases hs : Scalar.same value default
  · simp [hs, OpenTable.put, ← ht]
  · simp [hs, OpenTable.put]

theorem pushOffset_eq (ht : b.table = some t) (hc : t.check slot = .ok ()) {offset : Offset}
    (ho : b.couldHold offset = true) :
    b.pushOffset slot offset =
      .ok { b with table := some (t.put slot (some (.child offset))) } := by
  simp [pushOffset, ho, tableFor_eq ht hc, OpenTable.put]

end Builder

end Buffer

namespace Value

/-- Whether the value fits the width that it is stored in. -/
def fits : Value → Bool
  | isize v => decide (Int32.minValue.toInt64 ≤ v ∧ v ≤ Int32.maxValue.toInt64)
  | usize v => decide (v.toNat < UInt32.size)
  | _ => true

/-- The cell of the value; a text or bytes are referred to at their child. -/
def cell? (child : Option Offset) : Value → Option Cell
  | bool v => scalarCell v false
  | i8 v => scalarCell v 0
  | i16 v => scalarCell v 0
  | i32 v => scalarCell v 0
  | i64 v => scalarCell v 0
  | isize v => scalarCell v.toInt32 0
  | u8 v => scalarCell v 0
  | u16 v => scalarCell v 0
  | u32 v => scalarCell v 0
  | u64 v => scalarCell v 0
  | usize v => scalarCell v.toUInt32 0
  | char v => scalarCell v.val 0
  | f32 v => scalarCell v ⟨0⟩
  | f64 v => scalarCell v ⟨0⟩
  | text _ | bytes _ => child.map .child

theorem writeSlot_eq {b : Builder} {t : OpenTable} {slot : UInt16} (v : Value)
    {child : Option Offset} (ht : b.table = some t) (hc : t.check slot = .ok ())
    (ho : ∀ offset ∈ child, b.couldHold offset = true) :
    v.writeSlot slot child b =
      if v.fits then .ok { b with table := some (t.put slot (v.cell? child)) }
      else .error (.slotOverflow slot) := by
  cases v with
  | isize v =>
    by_cases hf : Int32.minValue.toInt64 ≤ v ∧ v ≤ Int32.maxValue.toInt64
    · simp only [writeSlot, fits, cell?, hf, Builder.push_eq ht hc, and_self, decide_true, if_true]
    · simp only [writeSlot, fits, hf, decide_false, Bool.false_eq_true, if_false]
  | usize v =>
    by_cases hf : v.toNat < UInt32.size
    · simp only [writeSlot, fits, cell?, hf, Builder.push_eq ht hc, decide_true, if_true]
    · simp only [writeSlot, fits, hf, decide_false, Bool.false_eq_true, if_false]
  | text _ | bytes _ =>
    cases child with
    | none =>
      simp only [writeSlot, fits, cell?, if_true, Option.map_none, OpenTable.put, ← ht]
    | some offset =>
      simp only [writeSlot, fits, cell?, if_true, Option.map_some,
        Builder.pushOffset_eq ht hc (ho offset rfl)]
  | _ => simp only [writeSlot, fits, cell?, if_true, Builder.push_eq ht hc]

/-- What lies outside the table: a text or bytes. -/
def payload? : Value → Option ByteArray
  | text s => some s.toUTF8
  | bytes d => some d
  | _ => none

/-- The value that is read back: a floating point zero loses its sign. -/
def normalized : Value → Value
  | f32 x => f32 x.normalized
  | f64 x => f64 x.normalized
  | v => v

@[simp] theorem type_normalized (v : Value) : v.normalized.type = v.type := by cases v <;> rfl

@[simp] theorem normalized_normalized (v : Value) : v.normalized.normalized = v.normalized := by
  cases v <;> simp [normalized]

end Value

end RecordStore

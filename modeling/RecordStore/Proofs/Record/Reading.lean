import RecordStore.Proofs.Record.Filling
import RecordStore.Proofs.Text.Encoded

/-! Every value of a written table reads back, but for the sign of a floating point zero. -/
namespace RecordStore

open Buffer

theorem Buffer.Table.string_of_byteVector {t : Table} {offset : UInt16} {s : String}
    (h : t.byteVector offset = .ok s.toUTF8) : t.string offset = .ok s := by
  rw [Table.string, h, ok_bind, fromUTF8?_eq_some.mpr rfl]
  rfl

namespace Buffer.Standing

variable {t : OpenTable} {position : Nat} {whole : ByteArray} {slot offset : UInt16}

theorem field?_of_empty (h : Standing t position whole)
    (ho : offset.toNat = directoryHeaderSize + 2 * slot.toNat) (hh : t.Holds slot none) :
    (t.view position whole).field? offset = .ok none := by
  rw [h.field? ho, distance?_eq_none.mpr hh, Option.map_none]

theorem field?_of_cell (h : Standing t position whole)
    (ho : offset.toNat = directoryHeaderSize + 2 * slot.toNat) {cell : Cell}
    (hh : t.Holds slot (some cell)) :
    ∃ field, (t.view position whole).field? offset = .ok (some field) ∧ position ≤ field ∧
      Lies (cell.bytesAt field) field whole ∧ cell.InReach field := by
  obtain ⟨d, hd, hl, hr⟩ := h.exists_field hh
  exact ⟨position + d, by rw [h.field? ho, hd, Option.map_some], by omega, hl, hr⟩

/-- A value of a fixed width that a slot holds is read back, whatever readers fall back to. -/
theorem get_of_inline {α : Type} [Scalar α] (h : Standing t position whole)
    (ho : offset.toNat = directoryHeaderSize + 2 * slot.toNat) {value : α}
    (hh : t.Holds slot (some (.inline (Scalar.bytes value)))) (default : α) :
    (t.view position whole).get offset default = .ok value := by
  obtain ⟨field, hfield, -, hl, -⟩ := h.field?_of_cell ho hh
  have hslice : slice whole field (Scalar.width α) = .ok (Scalar.bytes value) := by
    have hr := slice_of_lies hl
    rwa [Cell.bytesAt, Scalar.size_bytes] at hr
  rw [Table.get, hfield, ok_bind]
  simp only [OpenTable.view, hslice, ok_bind, pure_eq_ok, Scalar.ofBytes_bytes]

/-- A value of a fixed width reads back, or the one that counts as equal to it. -/
theorem get_eq {α : Type} [Scalar α] (h : Standing t position whole)
    (ho : offset.toNat = directoryHeaderSize + 2 * slot.toNat) {value default : α}
    (hh : t.Holds slot (scalarCell value default)) :
    (t.view position whole).get offset default =
      .ok (if Scalar.same value default then default else value) := by
  rw [scalarCell] at hh
  by_cases hs : Scalar.same value default
  · rw [if_pos hs] at hh ⊢
    rw [Table.get, h.field?_of_empty ho hh]
    rfl
  · rw [if_neg hs] at hh ⊢
    exact h.get_of_inline ho hh default

/-- A value of a type on which counting as equal is equality reads back. -/
theorem get_value {α : Type} [Scalar α] (h : Standing t position whole)
    (ho : offset.toNat = directoryHeaderSize + 2 * slot.toNat) {value default : α}
    (hsame : Scalar.same value default = true → value = default)
    (hh : t.Holds slot (scalarCell value default)) :
    (t.view position whole).get offset default = .ok value := by
  rw [h.get_eq ho hh]
  by_cases hs : Scalar.same value default
  · rw [if_pos hs, hsame hs]
  · rw [if_neg hs]

theorem char_eq (h : Standing t position whole)
    (ho : offset.toNat = directoryHeaderSize + 2 * slot.toNat) {c : Char}
    (hh : t.Holds slot (scalarCell c.val 0)) :
    (t.view position whole).char offset '\x00' = .ok c := by
  rw [scalarCell] at hh
  by_cases hs : Scalar.same c.val 0
  · have hc : c = '\x00' := by
      have hv : c.val = 0 := by simpa [Scalar.same] using hs
      exact Char.ext hv
    rw [if_pos hs] at hh
    rw [Table.char, h.field?_of_empty ho hh, hc]
    rfl
  · rw [if_neg hs] at hh
    obtain ⟨field, hfield, -, hl, -⟩ := h.field?_of_cell ho hh
    have hn : number 4 whole field = .ok c.val.toNat := number_of_lies hl c.val.toNat_lt
    rw [Table.char, hfield, ok_bind]
    simp only [OpenTable.view, hn, ok_bind]
    rw [if_pos c.valid, show Char.ofNat c.val.toNat = c from Char.ofNat_toNat c]
    rfl

theorem byteVector_eq (h : Standing t position whole)
    (ho : offset.toNat = directoryHeaderSize + 2 * slot.toNat) {data : ByteArray}
    {child : Offset} (hlodged : Lodged position whole data child)
    (hh : t.Holds slot (some (.child child))) :
    (t.view position whole).byteVector offset = .ok data := by
  obtain ⟨field, hfield, hle, hl, hr⟩ := h.field?_of_cell ho hh
  have hend := hlodged.end_le
  have hback : number 4 whole field = .ok (field - child.position.toNat) := number_of_lies hl hr
  have hlength : number 4 whole child.position.toNat = .ok data.size :=
    number_of_lies hlodged.lies.left hlodged.size_lt
  have hdata : slice whole (child.position.toNat + 4) data.size = .ok data := by
    have hright := slice_of_lies hlodged.lies.right
    rwa [LittleEndian.size_bytes] at hright
  have hchild : field - (field - child.position.toNat) = child.position.toNat := by omega
  rw [Table.byteVector, hfield, ok_bind]
  simp only [OpenTable.view, hback, ok_bind, hchild, hlength, hdata]
  rw [if_neg (by omega)]

theorem string_eq (h : Standing t position whole)
    (ho : offset.toNat = directoryHeaderSize + 2 * slot.toNat) {text : String}
    {child : Offset} (hlodged : Lodged position whole text.toUTF8 child)
    (hh : t.Holds slot (some (.child child))) :
    (t.view position whole).string offset = .ok text :=
  Table.string_of_byteVector (h.byteVector_eq ho hlodged hh)

end Buffer.Standing

/-- Whatever a reader takes an empty slot to be reads as a zero. -/
theorem FieldType.read_of_empty {table : Table} {offset : UInt16}
    (h : table.field? offset = .ok none) (t : FieldType) : t.read table offset = .ok (.zero t) := by
  have hget {α : Type} [Scalar α] (default : α) : table.get offset default = .ok default := by
    rw [Table.get, h]
    rfl
  have hbytes : table.byteVector offset = .ok .empty := by
    rw [Table.byteVector, h]
    rfl
  cases t with
  | char =>
    rw [read, Table.char, h]
    rfl
  | text =>
    rw [read, Table.string, hbytes]
    rfl
  | bytes =>
    rw [read, hbytes]
    rfl
  | _ =>
    rw [read, hget]
    rfl

namespace Value

variable {t : OpenTable} {position : Nat} {whole : ByteArray} {slot offset : UInt16}

theorem toInt64_toInt32 {v : Int64}
    (h : Int32.minValue.toInt64 ≤ v ∧ v ≤ Int32.maxValue.toInt64) : v.toInt32.toInt64 = v := by
  have hmin : Int32.minValue.toInt64.toInt = -2147483648 := by decide
  have hmax : Int32.maxValue.toInt64.toInt = 2147483647 := by decide
  rw [Int64.le_iff_toInt_le, Int64.le_iff_toInt_le, hmin, hmax] at h
  rw [← Int64.toInt_inj, Int32.toInt_toInt64, Int64.toInt_toInt32]
  exact Int.bmod_eq_of_le (by omega) (by omega)

/-- What stands in a table for a value reads as the value. -/
theorem read_eq (v : Value) (h : Standing t position whole)
    (ho : offset.toNat = directoryHeaderSize + 2 * slot.toNat) {child : Option Offset}
    (hh : t.Holds slot (v.cell? child))
    (hl : Option.Rel (Lodged position whole) v.payload? child) (hf : v.fits = true) :
    v.type.read (t.view position whole) offset = .ok v.normalized := by
  cases v with
  | isize v =>
    have hv := h.get_value ho (fun hs => by simpa [Scalar.same] using hs) hh
    simp only [type, FieldType.read, hv, ok_bind, pure_eq_ok]
    rw [toInt64_toInt32 (of_decide_eq_true hf)]
    rfl
  | usize v =>
    have hv := h.get_value ho (fun hs => by simpa [Scalar.same] using hs) hh
    have hlt : v.toNat < UInt32.size := of_decide_eq_true hf
    have hw : v.toUInt32.toUInt64 = v := by
      rw [← UInt64.toNat_inj, UInt32.toNat_toUInt64, UInt64.toNat_toUInt32]
      exact Nat.mod_eq_of_lt hlt
    simp only [type, FieldType.read, hv, ok_bind, pure_eq_ok, hw]
    rfl
  | char c =>
    simp only [type, FieldType.read, h.char_eq ho hh, ok_bind, pure_eq_ok]
    rfl
  | f32 x =>
    simp only [type, FieldType.read, h.get_eq ho hh, ok_bind, pure_eq_ok, normalized]
    by_cases hs : Scalar.same x ⟨0⟩
    · rw [if_pos hs, Binary32.normalized_of_same hs]
    · rw [if_neg hs, Binary32.normalized_of_not_same (by simpa using hs)]
  | f64 x =>
    simp only [type, FieldType.read, h.get_eq ho hh, ok_bind, pure_eq_ok, normalized]
    by_cases hs : Scalar.same x ⟨0⟩
    · rw [if_pos hs, Binary64.normalized_of_same hs]
    · rw [if_neg hs, Binary64.normalized_of_not_same (by simpa using hs)]
  | text s =>
    cases hl with
    | some hl =>
      simp only [type, FieldType.read, h.string_eq ho hl hh, ok_bind, pure_eq_ok]
      rfl
  | bytes d =>
    cases hl with
    | some hl =>
      simp only [type, FieldType.read, h.byteVector_eq ho hl hh, ok_bind, pure_eq_ok]
      rfl
  | _ =>
    have hv := h.get_value ho (fun hs => by simpa [Scalar.same] using hs) hh
    simp only [type, FieldType.read, hv, ok_bind, pure_eq_ok]
    rfl

end Value

end RecordStore

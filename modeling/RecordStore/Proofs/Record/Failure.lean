import RecordStore.Proofs.Record.Capacity

/-! Why a record cannot be encoded, told by its values: too many slots, a value that does not fit
the width it is stored in, or a table of more bytes than 16 bits can count. -/
namespace RecordStore

open Buffer

/-- Bytes that a value of the type takes up in a table; a text or bytes are only referred to. -/
def FieldType.width : FieldType → Nat
  | bool | i8 | u8 => 1
  | i16 | u16 => 2
  | i32 | u32 | isize | usize | char | f32 | text | bytes => 4
  | i64 | u64 | f64 => 8

namespace Value

/-- Whether a value as wide as the machine lies outside the 32 bits that it is stored in. -/
def Overflows : Value → Prop
  | isize v => v.toInt < -2147483648 ∨ 2147483647 < v.toInt
  | usize v => 4294967295 < v.toNat
  | _ => False

/-- Bytes that a value takes up in a table: none for a zero, of whatever sign, but always a
reference for a text or bytes. -/
def storedWidth (v : Value) : Nat :=
  if v.payload? = none ∧ v.normalized = zero v.type then 0 else v.type.width

theorem fits_iff (v : Value) : v.fits = true ↔ ¬ v.Overflows := by
  cases v with
  | isize v =>
    have hmin : Int32.minValue.toInt64.toInt = -2147483648 := by decide
    have hmax : Int32.maxValue.toInt64.toInt = 2147483647 := by decide
    simp only [fits, Overflows, decide_eq_true_eq, Int64.le_iff_toInt_le, hmin, hmax]
    omega
  | usize v =>
    simp only [fits, Overflows, decide_eq_true_eq, UInt32.size]
    omega
  | _ => simp [fits, Overflows]

theorem fits_eq_false_iff (v : Value) : v.fits = false ↔ v.Overflows := by
  rw [← Bool.not_eq_true, fits_iff, not_not]

theorem width_scalarCell {α : Type} [Scalar α] (value default : α) :
    ((scalarCell value default).map Cell.width).getD 0 =
      if Scalar.same value default then 0 else Scalar.width α := by
  rw [scalarCell]
  by_cases h : Scalar.same value default <;> simp [h, Cell.width]

theorem tableWidth_of_scalar {α : Type} [Scalar α] {v : Value} {value default : α}
    (hcell : v.cell? none = scalarCell value default) (hpayload : v.payload? = none)
    (hzero : Scalar.same value default = true ↔ v.normalized = zero v.type)
    (hwidth : Scalar.width α = v.type.width) : v.tableWidth = v.storedWidth := by
  rw [tableWidth, storedWidth, hpayload, hcell, width_scalarCell, hwidth]
  by_cases h : Scalar.same value default = true
  · simp [h, hzero.mp h]
  · simp [h, mt hzero.mpr h]

/-- Values that fit take up as many bytes in a table as their type says, or none. -/
theorem tableWidth_eq {v : Value} (h : ¬ v.Overflows) : v.tableWidth = v.storedWidth := by
  cases v with
  | text _ | bytes _ => rfl
  | f32 x =>
    refine tableWidth_of_scalar rfl rfl ?_ rfl
    rw [Binary32.same_zero_iff]
    simp [normalized, zero, type]
  | f64 x =>
    refine tableWidth_of_scalar rfl rfl ?_ rfl
    rw [Binary64.same_zero_iff]
    simp [normalized, zero, type]
  | isize v =>
    have hv := toInt64_toInt32 (of_decide_eq_true ((fits_iff (isize v)).mpr h))
    have hzero : v.toInt32 = 0 ↔ v = 0 :=
      ⟨fun he => by rw [← hv, he]; rfl, fun he => by rw [he]; rfl⟩
    exact tableWidth_of_scalar rfl rfl (by simp [Scalar.same, normalized, zero, type, hzero]) rfl
  | usize v =>
    have hv : v.toNat < UInt32.size := of_decide_eq_true ((fits_iff (usize v)).mpr h)
    have hzero : v.toUInt32 = 0 ↔ v = 0 := by
      rw [← UInt32.toNat_inj, ← UInt64.toNat_inj, UInt64.toNat_toUInt32, Nat.mod_eq_of_lt hv]
      rfl
    exact tableWidth_of_scalar rfl rfl (by simp [Scalar.same, normalized, zero, type, hzero]) rfl
  | char c =>
    have hzero : c.val = 0 ↔ c = '\x00' := ⟨fun he => Char.ext he, fun he => by rw [he]; rfl⟩
    exact tableWidth_of_scalar rfl rfl (by simp [Scalar.same, normalized, zero, type, hzero]) rfl
  | _ v =>
    exact tableWidth_of_scalar rfl rfl (by simp [Scalar.same, normalized, zero, type]) rfl

end Value

namespace Binding

/-- Bytes of the table of a record that is stored under an id. -/
def tableSize (b : Binding) (r : Record b.types) (id : UInt64) : Nat :=
  4 + ((b.setId r id).values.map Value.storedWidth).sum

/-- Bytes of the whole buffer of a record: the header, the children, the directory and the table. -/
def bufferSize (b : Binding) (r : Record b.types) (id : UInt64) : Nat :=
  headerSize + (Value.outside r.values).size +
    (directoryHeaderSize + 2 * b.entity.slotCount.toNat) + b.tableSize r id

/-- The children keep the buffer of a record below 2 ^ 32 bytes. Where there are too many slots for
a table, they are all there is of it. -/
structure LeavesRoom (b : Binding) (r : Record b.types) (id : UInt64) : Prop where
  children_lt : headerSize + (Value.outside r.values).size < UInt32.size
  buffer_lt : b.entity.slotCount.toNat ≤ maxSlots → b.bufferSize r id < UInt32.size

variable {b : Binding} {r : Record b.types} {id : UInt64}

/-- Too many slots are noticed before any field is written, whatever slots the fields have. -/
theorem encode_tooManySlots (hroom : b.LeavesRoom r id)
    (hm : maxSlots < b.entity.slotCount.toNat) :
    b.encode r id = .error (.tooManySlots b.entity.slotCount) := by
  obtain ⟨children, hw, -, -⟩ := exists_children hroom.children_lt
  rw [encode, flatten, hw, ok_bind]
  simp only [startTable_written, if_pos hm, error_bind]

/-- The identifier never overflows, whatever it is. -/
theorem overflows_stored {f : BoundField} {v : Value} (h : (stored id f v).Overflows) :
    v.Overflows := by
  rw [stored] at h
  split at h
  · exact h.elim
  · exact h

/-- A value that overflows is not that of the identifier, and so it is stored. -/
theorem stored_of_overflows (h : b.WellFormed) {i : Nat} {f : BoundField} {v : Value}
    (hf : b.fields[i]? = some f) (hv : r.values[i]? = some v) (ho : v.Overflows) :
    stored id f v = v := by
  by_cases hi : f.property.isIdentifier
  · have ht := type_value hf hv
    rw [h.identifier_type (List.mem_of_getElem? hf) hi] at ht
    cases v with
    | u64 _ => exact ho.elim
    | _ => cases ht
  · rw [stored, if_neg hi]

theorem fits_valueOf {entry : Entry} (h : ¬ entry.2.1.Overflows) :
    (valueOf id entry).fits = true :=
  (Value.fits_iff _).mpr (mt overflows_stored h)

theorem getElem?_entries {children : List (Option Offset)} {i : Nat} {entry : Entry} :
    (b.entries r children)[i]? = some entry ↔
      b.fields[i]? = some entry.1 ∧ r.values[i]? = some entry.2.1 ∧
        children[i]? = some entry.2.2 := by
  rw [entries, List.getElem?_zip_eq_some, List.getElem?_zip_eq_some]

/-- The first value that overflows is the one that encoding fails for. -/
theorem encode_slotOverflow (h : b.WellFormed) (hroom : b.LeavesRoom r id)
    (hm : b.entity.slotCount.toNat ≤ maxSlots) {i : Nat} {v : Value} (hv : r.values[i]? = some v)
    (ho : v.Overflows) (hfirst : ∀ j < i, ∀ w, r.values[j]? = some w → ¬ w.Overflows) :
    b.encode r id = .error (.slotOverflow (UInt16.ofNat i)) := by
  obtain ⟨children, hw, hl, -⟩ := exists_children hroom.children_lt
  have hi := (List.getElem?_eq_some_iff.mp hv).1
  have hlen := length_values r
  obtain ⟨f, hf⟩ : ∃ f, b.fields[i]? = some f := ⟨_, List.getElem?_eq_getElem (by omega)⟩
  obtain ⟨child, hc⟩ : ∃ child, children[i]? = some child :=
    ⟨_, List.getElem?_eq_getElem (by omega)⟩
  have hentry : (b.entries r children)[i]? = some (f, v, child) :=
    getElem?_entries.mpr ⟨hf, hv, hc⟩
  have hunfit : (valueOf id (f, v, child)).fits = false := by
    rw [valueOf, stored_of_overflows h hf hv ho]
    exact v.fits_eq_false_iff.mpr ho
  have hfind : (b.entries r children).find? (fun entry => !(valueOf id entry).fits) =
      some (f, v, child) := by
    obtain ⟨hlt, he⟩ := List.getElem?_eq_some_iff.mp hentry
    refine List.find?_eq_some_iff_getElem.mpr ⟨by rw [hunfit]; rfl, i, hlt, he, ?_⟩
    intro j hj
    obtain ⟨-, hvj, -⟩ := getElem?_entries.mp
      (List.getElem?_eq_getElem (l := b.entries r children) (i := j) (by omega))
    rw [Bool.not_not]
    exact fits_valueOf (hfirst j hj _ hvj)
  have hslot : f.property.slot = UInt16.ofNat i := by
    rw [← UInt16.toNat_inj, toNat_slot h hm hf, UInt16.toNat_ofNat_of_lt']
    have := length_le_of_slots h hm
    simp only [UInt16.size]
    omega
  have hnot : ¬ maxSlots < b.entity.slotCount.toNat := by omega
  rw [encode, flatten_eq h hw, if_neg hnot, hfind, error_bind, slotOf, hslot]

/-- Where no value overflows, the size of the table alone decides. -/
theorem encode_of_not_overflows (h : b.WellFormed) (hroom : b.LeavesRoom r id)
    (hm : b.entity.slotCount.toNat ≤ maxSlots) (hfit : ∀ v ∈ r.values, ¬ v.Overflows) :
    (b.tableSize r id < UInt16.size → ∃ bytes, b.encode r id = .ok bytes) ∧
      (UInt16.size ≤ b.tableSize r id → ∃ length, UInt16.size ≤ length ∧
        b.encode r id = .error (.tooLarge .table length)) := by
  obtain ⟨children, hw, hl, P, hrel⟩ := exists_children hroom.children_lt
  have hstored : ∀ v ∈ (b.setId r id).values, ¬ v.Overflows := by
    intro v hv
    rw [values_setId h] at hv
    obtain ⟨i, hi⟩ := List.mem_iff_getElem?.mp hv
    obtain ⟨f, w, -, hw, rfl⟩ := List.getElem?_zipWith_eq_some.mp hi
    exact mt overflows_stored (hfit w (List.mem_of_getElem? hw))
  have hwidths : (b.setId r id).values.map Value.tableWidth =
      (b.setId r id).values.map Value.storedWidth :=
    List.map_congr_left fun v hv => Value.tableWidth_eq (hstored v hv)
  have hfits : ∀ entry ∈ b.entries r children, (valueOf id entry).fits = true := by
    intro entry he
    exact fits_valueOf (hfit _ (List.of_mem_zip (List.of_mem_zip he).2).1)
  have hbuffer := hroom.buffer_lt hm
  rw [bufferSize, tableSize, ← hwidths] at hbuffer
  rw [encode_eq_finish h hw hm hfits, tableSize, ← hwidths]
  exact finish_filled h hm hl hrel hbuffer

/-- There is no other reason for encoding to fail. -/
theorem error_of_encode (h : b.WellFormed) (hroom : b.LeavesRoom r id) {e : BuildError}
    (he : b.encode r id = .error e) :
    e = .tooManySlots b.entity.slotCount ∨ (∃ slot, e = .slotOverflow slot) ∨
      ∃ length, e = .tooLarge .table length := by
  rcases Nat.lt_or_ge maxSlots b.entity.slotCount.toNat with hm | hm
  · rw [encode_tooManySlots hroom hm] at he
    cases he
    exact .inl rfl
  · cases hfind : r.values.find? (!·.fits) with
    | none =>
      have hfit : ∀ v ∈ r.values, ¬ v.Overflows := by
        simpa [Value.fits_iff] using List.find?_eq_none.mp hfind
      obtain ⟨hsmall, hlarge⟩ := encode_of_not_overflows h hroom hm hfit
      rcases Nat.lt_or_ge (b.tableSize r id) UInt16.size with hs | hs
      · obtain ⟨bytes, hok⟩ := hsmall hs
        rw [hok] at he
        cases he
      · obtain ⟨length, -, hlong⟩ := hlarge hs
        rw [hlong] at he
        cases he
        exact .inr (.inr ⟨length, rfl⟩)
    | some v =>
      -- The first value that does not fit is the one the error is about.
      obtain ⟨hunfit, i, hi, rfl, hfirst⟩ := List.find?_eq_some_iff_getElem.mp hfind
      rw [encode_slotOverflow h hroom hm (List.getElem?_eq_getElem hi)] at he
      · cases he
        exact .inr (.inl ⟨_, rfl⟩)
      · simpa [Value.fits_eq_false_iff] using hunfit
      · intro j hj w hw
        obtain ⟨hlt, rfl⟩ := List.getElem?_eq_some_iff.mp hw
        simpa [Value.fits_iff] using hfirst j hj

end Binding

end RecordStore

import RecordStore.Engine.Matching
import RecordStore.Proofs.Model.Registration
import RecordStore.Proofs.Record.Cell

/-! What tests compare, told by the values of records; and that the engine, which knows no more of
a value than its stored bits and the type and flags of its property, compares the same. -/
namespace RecordStore

open Buffer

/-- What a test compares with its operands. -/
inductive Comparand
  | number (n : Int)
  /-- A floating point number on the scale of both formats; a NaN has no place there. -/
  | units (x : Option Int)
  | text (s : String)
  | bytes (data : ByteArray)
  deriving DecidableEq

namespace Value

/-- Truth values count as 0 and 1, characters as their code points, and integers as themselves. -/
def comparand : Value → Comparand
  | bool v => .number v.toNat
  | i8 v => .number v.toInt
  | i16 v => .number v.toInt
  | i32 v => .number v.toInt
  | i64 v => .number v.toInt
  | isize v => .number v.toInt
  | u8 v => .number v.toNat
  | u16 v => .number v.toNat
  | u32 v => .number v.toNat
  | u64 v => .number v.toNat
  | usize v => .number v.toNat
  | char v => .number v.val.toNat
  | f32 v => .units v.units?
  | f64 v => .units v.units?
  | text s => .text s
  | bytes d => .bytes d

end Value

namespace FieldType

/-- The bytes that integers of the type are stored in. -/
def integerWidth? : FieldType → Option Nat
  | i8 | u8 => some 1
  | i16 | u16 => some 2
  | i32 | u32 | isize | usize => some 4
  | i64 | u64 => some 8
  | _ => none

end FieldType

/-- The number that the bits of another one write in some bytes, with or without a sign. -/
def reread (unsigned : Bool) (width : Nat) (n : Int) : Int :=
  if unsigned then n % LittleEndian.capacity width else n.bmod (LittleEndian.capacity width)

theorem reread_reread (unsigned other : Bool) (width : Nat) (n : Int) :
    reread unsigned width (reread other width n) = reread unsigned width n := by
  cases unsigned <;> cases other <;> simp [reread]

namespace Comparand

/-- Whether a test holds. No test holds of what it does not apply to. -/
def passes : Comparand → Test → Bool
  | text s, .stringEquals v => s == v
  | text s, .stringIn vs => vs.contains s
  | number n, .intEquals v => n == v.toInt
  | number n, .intGreater v => v.toInt < n
  | number n, .intLess v => n < v.toInt
  | number n, .intBetween low high => low.toInt ≤ n && n ≤ high.toInt
  | number n, .int64In vs => vs.any (·.toInt == n)
  | number n, .int32In vs => vs.any (·.toInt == n)
  | units x, .doubleGreater v => compareUnits (· < ·) v.units? x
  | units x, .doubleLess v => compareUnits (· < ·) x v.units?
  | units x, .doubleBetween low high =>
    compareUnits (· ≤ ·) low.units? x && compareUnits (· ≤ ·) x high.units?
  | bytes d, .bytesEquals v => d == v
  | _, _ => false

end Comparand

/-- What the engine compares for a value whose property is flagged as unsigned, or is not. -/
def Value.comparandAs (unsigned : Bool) (v : Value) : Comparand :=
  match v.type.integerWidth?, v.comparand with
  | some width, .number n => .number (reread unsigned width n)
  | _, c => c

/-- What the reader for a kind of property finds, whichever kind the property is of. -/
structure ModelProperty.Finds (p : ModelProperty) (t : Table) (offset : UInt16) (c : Comparand) :
    Prop where
  number : p.type.isInteger = true → ∃ n, p.readInt t offset = .ok n ∧ c = .number n
  units : (p.type == .float || p.type == .double) = true →
    ∃ x, p.readUnits t offset = .ok x ∧ c = .units x
  text : (p.type == .string) = true → ∃ s, t.string offset = .ok s ∧ c = .text s
  bytes : (p.type == .byteVector) = true → ∃ d, t.byteVector offset = .ok d ∧ c = .bytes d

/-- A test that applies to the property holds if it holds of what is found; it never fails. -/
theorem ModelProperty.Finds.passes_eq {p : ModelProperty} {t : Table} {offset : UInt16}
    {c : Comparand} (h : p.Finds t offset c) {test : Test} (ha : test.applies p.type = true) :
    p.passes t offset test = .ok (c.passes test) := by
  cases test with
  | stringEquals | stringIn =>
    obtain ⟨s, hs, rfl⟩ := h.text ha
    rw [ModelProperty.passes, hs]
    rfl
  | intEquals | intGreater | intLess | intBetween | int64In | int32In =>
    obtain ⟨n, hn, rfl⟩ := h.number ha
    rw [ModelProperty.passes, hn]
    rfl
  | doubleGreater | doubleLess | doubleBetween =>
    obtain ⟨x, hx, rfl⟩ := h.units ha
    rw [ModelProperty.passes, hx]
    rfl
  | bytesEquals =>
    obtain ⟨d, hd, rfl⟩ := h.bytes ha
    rw [ModelProperty.passes, hd]
    rfl

namespace Buffer.Table

variable {t : Table} {offset : UInt16}

/-- The number that the bits of a field write, zero without one. -/
def bits (t : Table) (offset : UInt16) (width : Nat) : Except ReadError Nat := do
  match ← t.field? offset with
  | some position => number width t.bytes position
  | none => return 0

theorem get_ofBits {α : Type} [Scalar α] :
    t.get offset (Scalar.ofBits 0 : α) = (t.bits offset (Scalar.width α)).map Scalar.ofBits := by
  rw [get, bits]
  cases t.field? offset with
  | error e => rfl
  | ok position =>
    cases position with
    | none => rfl
    | some position =>
      simp only [ok_bind, number]
      cases slice t.bytes position (Scalar.width α) <;> rfl

theorem of_char {c : Char} (h : t.char offset '\x00' = .ok c) :
    t.bits offset 4 = .ok c.val.toNat := by
  rw [char] at h
  rw [bits]
  cases hf : t.field? offset with
  | error e =>
    rw [hf] at h
    cases h
  | ok position =>
    rw [hf, ok_bind] at h
    cases position with
    | none =>
      cases h
      rfl
    | some position =>
      obtain ⟨n, hn, h⟩ := bind_eq_ok.mp h
      by_cases hv : n.isValidChar
      · rw [if_pos hv] at h
        cases h
        simp only [ok_bind, hn]
        rw [Char.ofNat, dif_pos hv]
        rfl
      · rw [if_neg hv] at h
        cases h

end Buffer.Table

section

variable {t : Table} {offset : UInt16} {v : Value} {p : ModelProperty}

theorem FieldType.exists_bits {α : Type} [Scalar α] {wrap : α → Value} {default : α}
    (hd : Scalar.ofBits 0 = default)
    (h : (t.get offset default >>= fun a => pure (wrap a)) = .ok v) :
    ∃ n, t.bits offset (Scalar.width α) = .ok n ∧ v = wrap (Scalar.ofBits n) := by
  rw [← hd, Buffer.Table.get_ofBits] at h
  obtain ⟨a, ha, h⟩ := bind_eq_ok.mp h
  obtain ⟨n, hn, rfl⟩ := map_eq_ok.mp ha
  cases h
  exact ⟨n, hn, rfl⟩

/-- A field that reads as an integer has the integer's bits, whatever sign they write. -/
theorem FieldType.comparand_of_read {type : FieldType} {width : Nat}
    (hw : type.integerWidth? = some width) (hread : type.read t offset = .ok v) :
    ∃ n : Nat, t.bits offset width = .ok n ∧
      v.comparand = .number (reread type.isUnsigned width n) := by
  cases type with
  | i8 | i16 | i32 | i64 | u8 | u16 | u32 | u64 =>
    cases hw
    obtain ⟨n, hn, rfl⟩ := exists_bits rfl hread
    refine ⟨n, hn, ?_⟩
    simp [Value.comparand, reread, Scalar.ofBits, isUnsigned, LittleEndian.capacity]
  | isize =>
    cases hw
    obtain ⟨n, hn, rfl⟩ :=
      @exists_bits t offset v Int32 _ (fun a => .isize a.toInt64) _ rfl hread
    refine ⟨n, hn, ?_⟩
    simp [Value.comparand, reread, Scalar.ofBits, isUnsigned, LittleEndian.capacity]
  | usize =>
    cases hw
    obtain ⟨n, hn, rfl⟩ :=
      @exists_bits t offset v UInt32 _ (fun a => .usize a.toUInt64) _ rfl hread
    refine ⟨n, hn, ?_⟩
    simp [Value.comparand, reread, Scalar.ofBits, isUnsigned, LittleEndian.capacity]
  | _ => cases hw

/-- The engine reads an integer with the sign that the flags of its property say. -/
theorem ModelProperty.readInt_eq {type : FieldType} {width : Nat}
    (hw : type.integerWidth? = some width) (hp : p.type = type.storeType) :
    p.readInt t offset =
      (t.bits offset width).map fun n : Nat => reread p.isUnsigned width (n : Int) := by
  have hget {α : Type} [Scalar α] {zero : α} {toInt : α → Int} {unsigned : Bool}
      (hz : Scalar.ofBits 0 = zero) (hw : Scalar.width α = width)
      (hi : ∀ n : Nat, toInt (Scalar.ofBits n) = reread unsigned width n) :
      (t.get offset zero >>= fun a => pure (toInt a)) =
        (t.bits offset width).map fun n : Nat => reread unsigned width (n : Int) := by
    rw [← hz, Buffer.Table.get_ofBits, hw]
    cases t.bits offset width with
    | error e => rfl
    | ok n => exact congrArg Except.ok (hi n)
  rw [readInt, hp]
  cases type with
  | i8 | i16 | i32 | i64 | isize | u8 | u16 | u32 | u64 | usize =>
    cases hw
    simp only [FieldType.storeType]
    split
    · next hu =>
      rw [hu]
      exact hget rfl rfl (by simp [reread, Scalar.ofBits, LittleEndian.capacity])
    · next hu =>
      rw [Bool.eq_false_iff.mpr hu]
      exact hget rfl rfl (by simp [reread, Scalar.ofBits, LittleEndian.capacity])
  | _ => cases hw

/-- If the flag of an integer's property says of the sign what its type says, the engine takes the
value for what it is. -/
theorem comparandAs_eq {type : FieldType} (hread : type.read t offset = .ok v)
    (hu : type.integerWidth?.isSome = true → p.isUnsigned = type.isUnsigned) :
    v.comparandAs p.isUnsigned = v.comparand := by
  have htype : v.type = type := FieldType.type_of_read hread
  rw [Value.comparandAs, htype]
  cases hw : type.integerWidth? with
  | some width =>
    obtain ⟨n, -, hv⟩ := FieldType.comparand_of_read hw hread
    rw [hv, hu (by simp [hw])]
    simp only [reread_reread]
  | none => rfl

section

variable {type : FieldType} (hread : type.read t offset = .ok v) (hp : p.type = type.storeType)
include hread hp

/-- The integer that the engine compares. -/
theorem exists_readInt (hi : p.type.isInteger = true) :
    ∃ n, p.readInt t offset = .ok n ∧ v.comparandAs p.isUnsigned = .number n := by
  have htype : v.type = type := FieldType.type_of_read hread
  rw [Value.comparandAs, htype]
  cases hw : type.integerWidth? with
  | some width =>
    obtain ⟨n, hn, hv⟩ := FieldType.comparand_of_read hw hread
    refine ⟨reread p.isUnsigned width n, ?_, ?_⟩
    · rw [ModelProperty.readInt_eq hw hp, hn]
      rfl
    · rw [hv]
      simp only [reread_reread]
  | none =>
    rw [hp] at hi
    cases type with
    | bool =>
      obtain ⟨a, ha, he⟩ := bind_eq_ok.mp hread
      cases he
      refine ⟨a.toNat, ?_, rfl⟩
      rw [ModelProperty.readInt, hp]
      simp only [FieldType.storeType, ha, ok_bind]
      cases a <;> rfl
    | char =>
      obtain ⟨c, hc, he⟩ := bind_eq_ok.mp hread
      cases he
      refine ⟨c.val.toNat, ?_, rfl⟩
      have hget : t.get offset (0 : UInt32) = .ok c.val := by
        refine Buffer.Table.get_ofBits.trans ?_
        have hbits : t.bits offset (Scalar.width UInt32) = .ok c.val.toNat :=
          Buffer.Table.of_char hc
        rw [hbits]
        simp only [Except.map, Scalar.ofBits, UInt32.ofNat_toNat]
      rw [ModelProperty.readInt, hp]
      simp only [FieldType.storeType, hget, ok_bind]
      rfl
    | f32 | f64 | text | bytes => cases hi
    | _ => cases hw

/-- The floating point number that the engine compares. -/
theorem exists_readUnits (hf : (p.type == .float || p.type == .double) = true) :
    ∃ x, p.readUnits t offset = .ok x ∧ v.comparandAs p.isUnsigned = .units x := by
  rw [hp] at hf
  cases type with
  | f32 =>
    obtain ⟨a, ha, he⟩ := bind_eq_ok.mp hread
    cases he
    refine ⟨a.units?, ?_, rfl⟩
    rw [ModelProperty.readUnits, hp, FieldType.storeType, if_pos rfl, ha]
    rfl
  | f64 =>
    obtain ⟨a, ha, he⟩ := bind_eq_ok.mp hread
    cases he
    refine ⟨a.units?, ?_, rfl⟩
    rw [ModelProperty.readUnits, hp, FieldType.storeType, if_neg (by decide), ha]
    rfl
  | _ => cases hf

theorem exists_string (hs : (p.type == .string) = true) :
    ∃ s, t.string offset = .ok s ∧ v.comparandAs p.isUnsigned = .text s := by
  rw [hp] at hs
  cases type with
  | text =>
    obtain ⟨s, ha, he⟩ := bind_eq_ok.mp hread
    cases he
    exact ⟨s, ha, rfl⟩
  | _ => cases hs

theorem exists_byteVector (hb : (p.type == .byteVector) = true) :
    ∃ d, t.byteVector offset = .ok d ∧ v.comparandAs p.isUnsigned = .bytes d := by
  rw [hp] at hb
  cases type with
  | bytes =>
    obtain ⟨d, ha, he⟩ := bind_eq_ok.mp hread
    cases he
    exact ⟨d, ha, rfl⟩
  | _ => cases hb

/-- The engine finds what it takes a stored value for. -/
theorem finds_of_read : p.Finds t offset (v.comparandAs p.isUnsigned) :=
  ⟨exists_readInt hread hp, exists_readUnits hread hp, exists_string hread hp,
    exists_byteVector hread hp⟩

end

end

end RecordStore

import RecordStore.Number.Binary
import RecordStore.Number.LittleEndian

/-! Values of a fixed width, which lie in the table itself. -/
namespace RecordStore.Buffer

/-- A type whose values take up `width` bytes. -/
class Scalar (α : Type) where
  width : Nat
  /-- The bits of the value, as a number. -/
  toBits : α → Nat
  ofBits : Nat → α
  /-- Whether two values count as equal, so that one of them need not be stored. -/
  same : α → α → Bool
  toBits_lt : ∀ a, toBits a < LittleEndian.capacity width
  ofBits_toBits : ∀ a, ofBits (toBits a) = a

namespace Scalar

variable {α : Type} [Scalar α]

def bytes (a : α) : ByteArray := LittleEndian.bytes (width α) (toBits a)

def ofBytes (b : ByteArray) : α := ofBits (LittleEndian.value b)

@[simp] theorem size_bytes (a : α) : (bytes a).size = width α := by simp [bytes]

@[simp] theorem ofBytes_bytes (a : α) : ofBytes (bytes a) = a := by
  rw [ofBytes, bytes, LittleEndian.value_bytes, Nat.mod_eq_of_lt (toBits_lt a), ofBits_toBits]

/-- Every byte but zero reads as true. -/
instance : Scalar Bool where
  width := 1
  toBits b := b.toNat
  ofBits n := n != 0
  same := (· == ·)
  toBits_lt b := by cases b <;> decide
  ofBits_toBits b := by cases b <;> rfl

instance : Scalar UInt8 where
  width := 1
  toBits := UInt8.toNat
  ofBits := UInt8.ofNat
  same := (· == ·)
  toBits_lt a := a.toNat_lt
  ofBits_toBits _ := UInt8.ofNat_toNat

instance : Scalar UInt16 where
  width := 2
  toBits := UInt16.toNat
  ofBits := UInt16.ofNat
  same := (· == ·)
  toBits_lt a := a.toNat_lt
  ofBits_toBits _ := UInt16.ofNat_toNat

instance : Scalar UInt32 where
  width := 4
  toBits := UInt32.toNat
  ofBits := UInt32.ofNat
  same := (· == ·)
  toBits_lt a := a.toNat_lt
  ofBits_toBits _ := UInt32.ofNat_toNat

instance : Scalar UInt64 where
  width := 8
  toBits := UInt64.toNat
  ofBits := UInt64.ofNat
  same := (· == ·)
  toBits_lt a := a.toNat_lt
  ofBits_toBits _ := UInt64.ofNat_toNat

instance : Scalar Int8 where
  width := 1
  toBits a := a.toUInt8.toNat
  ofBits n := (UInt8.ofNat n).toInt8
  same := (· == ·)
  toBits_lt a := a.toUInt8.toNat_lt
  ofBits_toBits a := by simp

instance : Scalar Int16 where
  width := 2
  toBits a := a.toUInt16.toNat
  ofBits n := (UInt16.ofNat n).toInt16
  same := (· == ·)
  toBits_lt a := a.toUInt16.toNat_lt
  ofBits_toBits a := by simp

instance : Scalar Int32 where
  width := 4
  toBits a := a.toUInt32.toNat
  ofBits n := (UInt32.ofNat n).toInt32
  same := (· == ·)
  toBits_lt a := a.toUInt32.toNat_lt
  ofBits_toBits a := by simp

instance : Scalar Int64 where
  width := 8
  toBits a := a.toUInt64.toNat
  ofBits n := (UInt64.ofNat n).toInt64
  same := (· == ·)
  toBits_lt a := a.toUInt64.toNat_lt
  ofBits_toBits a := by simp

/-- Numbers are compared by value: both zeros are the same, and a NaN differs from itself. -/
instance : Scalar Binary32 where
  width := 4
  toBits a := a.bits.toNat
  ofBits n := ⟨UInt32.ofNat n⟩
  same a b := compareUnits (· == ·) a.units? b.units?
  toBits_lt a := a.bits.toNat_lt
  ofBits_toBits a := by simp

/-- Numbers are compared by value: both zeros are the same, and a NaN differs from itself. -/
instance : Scalar Binary64 where
  width := 8
  toBits a := a.bits.toNat
  ofBits n := ⟨UInt64.ofNat n⟩
  same a b := compareUnits (· == ·) a.units? b.units?
  toBits_lt a := a.bits.toNat_lt
  ofBits_toBits a := by simp

end Scalar

end RecordStore.Buffer

/-! Numbers as bytes, least significant byte first. -/
namespace RecordStore.LittleEndian

/-- The `width` low bytes of a number. -/
def digits : Nat → Nat → List UInt8
  | 0, _ => []
  | width + 1, n => UInt8.ofNat n :: digits width (n / 256)

/-- How many numbers `width` bytes can write. -/
def capacity : Nat → Nat
  | 0 => 1
  | width + 1 => 256 * capacity width

def ofDigits : List UInt8 → Nat
  | [] => 0
  | b :: rest => b.toNat + 256 * ofDigits rest

/-- The `width` low bytes of a number, as a byte array. -/
def bytes (width n : Nat) : ByteArray := ⟨(digits width n).toArray⟩

def value (b : ByteArray) : Nat := ofDigits b.data.toList

@[simp] theorem length_digits (width n : Nat) : (digits width n).length = width := by
  induction width generalizing n with
  | zero => rfl
  | succ width ih => simp [digits, ih]

@[simp] theorem size_bytes (width n : Nat) : (bytes width n).size = width := by
  simp [bytes, ByteArray.size]

theorem ofDigits_digits (width n : Nat) : ofDigits (digits width n) = n % capacity width := by
  induction width generalizing n with
  | zero => simp [digits, ofDigits, capacity, Nat.mod_one]
  | succ width ih =>
    rw [digits, ofDigits, ih, capacity, Nat.mod_mul]
    simp

/-- Reading back gives the number, less what does not fit the width. -/
theorem value_bytes (width n : Nat) : value (bytes width n) = n % capacity width := by
  simp [value, bytes, ofDigits_digits]

theorem ofDigits_lt (b : List UInt8) : ofDigits b < capacity b.length := by
  induction b with
  | nil => simp [ofDigits, capacity]
  | cons b rest ih =>
    have := b.toNat_lt
    simp only [ofDigits, List.length_cons, capacity]
    omega

/-- The number that bytes write has no more digits than there are bytes. -/
theorem value_lt (b : ByteArray) : value b < capacity b.size := by
  have h := ofDigits_lt b.data.toList
  rwa [Array.length_toList] at h

end RecordStore.LittleEndian

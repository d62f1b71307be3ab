import RecordStore.Buffer.Builder

/-! Finished buffers, read through the directory of their table. -/
namespace RecordStore.Buffer

/-- The bytes from a position on. -/
def slice (bytes : ByteArray) (position needed : Nat) : Except ReadError ByteArray :=
  if position + needed ≤ bytes.size then .ok (bytes.extract position (position + needed))
  else .error (.outOfBounds position needed bytes.size)

/-- The number written at a position. -/
def number (width : Nat) (bytes : ByteArray) (position : Nat) : Except ReadError Nat := do
  return LittleEndian.value (← slice bytes position width)

/-- The table of a buffer. -/
structure Table where
  bytes : ByteArray
  position : Nat
  directory : Nat
  directorySize : Nat

namespace Table

/-- The table at a position. Its directory lies a signed distance back. -/
def atPosition (bytes : ByteArray) (position : Nat) : Except ReadError Table := do
  let back : Int32 := Scalar.ofBits (← number 4 bytes position)
  let directory : Int := position - back.toInt
  if directory < 0 then throw (.invalidTable position .directoryOutOfRange)
  let directory := directory.toNat
  let size ← number 2 bytes directory
  if size < directoryHeaderSize || size % 2 != 0 then
    throw (.invalidTable position .directoryLength)
  let _ ← slice bytes directory size
  let _ ← slice bytes position (← number 2 bytes (directory + 2))
  return ⟨bytes, position, directory, size⟩

def root (bytes : ByteArray) : Except ReadError Table := do
  let position ← number 4 bytes 0
  if position < headerSize then throw (.invalidTable position .rootInHeader)
  atPosition bytes position

def slotCount (t : Table) : Nat := (t.directorySize - directoryHeaderSize) / 2

def field? (t : Table) (offset : UInt16) : Except ReadError (Option Nat) := do
  if offset.toNat < directoryHeaderSize ∨ t.directorySize < offset.toNat + 2 then return none
  else
    let distance ← number 2 t.bytes (t.directory + offset.toNat)
    return if distance = 0 then none else some (t.position + distance)

def has (t : Table) (offset : UInt16) : Except ReadError Bool := do
  return (← t.field? offset).isSome

def get {α : Type} [Scalar α] (t : Table) (offset : UInt16) (default : α) : Except ReadError α := do
  match ← t.field? offset with
  | some position => return Scalar.ofBytes (← slice t.bytes position (Scalar.width α))
  | none => return default

/-- The character of a slot, which is stored as its code point. -/
def char (t : Table) (offset : UInt16) (default : Char) : Except ReadError Char := do
  match ← t.field? offset with
  | some position =>
    let n ← number 4 t.bytes position
    if n.isValidChar then return Char.ofNat n
    else throw (.invalidChar offset (UInt32.ofNat n))
  | none => return default

/-- The bytes of the child of a slot; empty without one. -/
def byteVector (t : Table) (offset : UInt16) : Except ReadError ByteArray := do
  match ← t.field? offset with
  | some field =>
    let back ← number 4 t.bytes field
    if field < back then throw (.invalidTable t.position .childOutOfRange)
    let child := field - back
    let length ← number 4 t.bytes child
    slice t.bytes (child + 4) length
  | none => return .empty

/-- The text of the child of a slot; empty without one. -/
def string (t : Table) (offset : UInt16) : Except ReadError String := do
  match String.fromUTF8? (← t.byteVector offset) with
  | some text => return text
  | none => throw (.invalidText offset)

end Table

end RecordStore.Buffer

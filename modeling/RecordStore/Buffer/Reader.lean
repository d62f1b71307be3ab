import RecordStore.Buffer.Table

/-! Finished buffers, read at positions of 64 bits. The positions come from numbers in the buffer,
which may be any. -/
namespace RecordStore.Buffer

/-- Why a reading stops: with an error that its caller sees, or because the result of arithmetic on
positions does not fit. -/
inductive Stop
  | error (cause : ReadError)
  | addition
  | subtraction
  deriving DecidableEq, Repr

abbrev Reading (α : Type) := Except Stop α

/-- A reading that fails with an error. -/
def Reading.fail {α : Type} (e : ReadError) : Reading α := .error (.error e)

/-- The position behind another one. -/
def forth (position distance : UInt64) : Reading UInt64 :=
  if UInt64.size ≤ position.toNat + distance.toNat then .error .addition
  else .ok (position + distance)

/-- The position in front of another one. -/
def back (position distance : UInt64) : Reading UInt64 :=
  if position < distance then .error .subtraction else .ok (position - distance)

/-- The position in front of another one by a signed distance, if there is one. -/
def back? (position : UInt64) (distance : Int64) : Reading (Option UInt64) :=
  if Int64.maxValue.toInt < position.toNat then .ok none
  else
    let difference : Int := position.toNat - distance.toInt
    if difference < Int64.minValue.toInt ∨ Int64.maxValue.toInt < difference then
      .error .subtraction
    else if difference < 0 then .ok none
    else .ok (some (UInt64.ofNat difference.toNat))

/-- The bytes from a position on. An end that does not fit is out of bounds. -/
def sliceAt (bytes : ByteArray) (position : UInt64) (needed : Nat) : Reading ByteArray :=
  let last := position.toNat + needed
  if last < UInt64.size ∧ last ≤ bytes.size then .ok (bytes.extract position.toNat last)
  else .fail (.outOfBounds position.toNat needed bytes.size)

/-- The value written at a position. -/
def valueAt {α : Type} [Scalar α] (bytes : ByteArray) (position : UInt64) : Reading α := do
  return Scalar.ofBytes (← sliceAt bytes position (Scalar.width α))

/-- The table of a buffer. -/
structure Reader where
  bytes : ByteArray
  position : UInt64
  directory : UInt64
  directorySize : UInt64

namespace Reader

/-- The table at a position. Its directory lies a signed distance back. -/
def atPosition (bytes : ByteArray) (position : UInt64) : Reading Reader := do
  let distance : Int32 ← valueAt bytes position
  match ← back? position distance.toInt64 with
  | none => .fail (.invalidTable position.toNat .directoryOutOfRange)
  | some directory =>
    let size : UInt16 ← valueAt bytes directory
    if size.toNat < directoryHeaderSize || size % 2 != 0 then
      .fail (.invalidTable position.toNat .directoryLength)
    else
      let _ ← sliceAt bytes directory size.toNat
      let length : UInt16 ← valueAt bytes (← forth directory 2)
      let _ ← sliceAt bytes position length.toNat
      return ⟨bytes, position, directory, size.toUInt64⟩

def root (bytes : ByteArray) : Reading Reader := do
  let position : UInt32 ← valueAt bytes 0
  if position.toNat < headerSize then .fail (.invalidTable position.toNat .rootInHeader)
  else atPosition bytes position.toUInt64

def slotCount (r : Reader) : Reading UInt64 := do
  return (← back r.directorySize 4) / 2

def field? (r : Reader) (offset : UInt16) : Reading (Option UInt64) := do
  if offset.toNat < directoryHeaderSize then return none
  else if r.directorySize < (← forth offset.toUInt64 2) then return none
  else
    let distance : UInt16 ← valueAt r.bytes (← forth r.directory offset.toUInt64)
    if distance = 0 then return none
    else return some (← forth r.position distance.toUInt64)

def has (r : Reader) (offset : UInt16) : Reading Bool := do
  return (← r.field? offset).isSome

def get {α : Type} [Scalar α] (r : Reader) (offset : UInt16) (default : α) : Reading α := do
  match ← r.field? offset with
  | some position => valueAt r.bytes position
  | none => return default

/-- The character of a slot, which is stored as its code point. -/
def char (r : Reader) (offset : UInt16) (default : Char) : Reading Char := do
  match ← r.field? offset with
  | some position =>
    let n : UInt32 ← valueAt r.bytes position
    if n.toNat.isValidChar then return Char.ofNat n.toNat else .fail (.invalidChar offset n)
  | none => return default

/-- The bytes of the child of a slot; empty without one. -/
def byteVector (r : Reader) (offset : UInt16) : Reading ByteArray := do
  match ← r.field? offset with
  | some field =>
    let distance : UInt32 ← valueAt r.bytes field
    if field < distance.toUInt64 then .fail (.invalidTable r.position.toNat .childOutOfRange)
    else
      let child := field - distance.toUInt64
      let length : UInt32 ← valueAt r.bytes child
      sliceAt r.bytes (← forth child 4) length.toNat
  | none => return .empty

/-- The text of the child of a slot; empty without one. -/
def string (r : Reader) (offset : UInt16) : Reading String := do
  match String.fromUTF8? (← r.byteVector offset) with
  | some text => return text
  | none => .fail (.invalidText offset)

end Reader

end RecordStore.Buffer

import RecordStore.Buffer.Error
import RecordStore.Buffer.Scalar
import RecordStore.Bytes
import RecordStore.Overflow

/-! Buffers built from front to back: the children first, each with its length, then the directory
of the table and the table itself. The position of the table stands in front. -/
namespace RecordStore.Buffer

/-- Bytes in front of every buffer, for the position of the table. -/
def headerSize : Nat := 4

/-- Bytes in front of the slots of a directory, for its size and the size of the table. -/
def directoryHeaderSize : Nat := 4

/-- Most slots of a table, bounded by the 16 bits of the directory's size. -/
def maxSlots : Nat := 32765

/-- Where a directory describes a slot, if that stays within 16 bits. -/
def slotOffset (slot : UInt16) : Except Overflow UInt16 :=
  if UInt16.size ≤ 2 * slot.toNat then .error .multiplication
  else if UInt16.size ≤ directoryHeaderSize + 2 * slot.toNat then .error .addition
  else .ok (UInt16.ofNat (directoryHeaderSize + 2 * slot.toNat))

/-- The position of a child or a table. -/
structure Offset where
  position : UInt32
  deriving DecidableEq, Repr, Inhabited

/-- What a field of a table holds. -/
inductive Cell
  | inline (bytes : ByteArray)
  | child (offset : Offset)
  deriving DecidableEq

namespace Cell

def width : Cell → Nat
  | inline bytes => bytes.size
  | child _ => 4

/-- The bytes of a field at a position; one for a child is its distance back. -/
def bytesAt (position : Nat) : Cell → ByteArray
  | inline bytes => bytes
  | child offset => LittleEndian.bytes 4 (position - offset.position.toNat)

end Cell

/-- A table that takes fields. -/
structure OpenTable where
  slotCount : UInt16
  /-- The fields in the order they were written, with their slots. -/
  fields : Array (UInt16 × Cell)
  deriving DecidableEq

namespace OpenTable

def has (t : OpenTable) (slot : UInt16) : Bool := t.fields.any (·.1 == slot)

def check (t : OpenTable) (slot : UInt16) : Except BuildError Unit :=
  if t.slotCount ≤ slot then .error (.slotOutOfRange slot t.slotCount)
  else if t.has slot then .error (.duplicateSlot slot)
  else .ok ()

def push (t : OpenTable) (slot : UInt16) (cell : Cell) : OpenTable :=
  { t with fields := t.fields.push (slot, cell) }

def directorySize (t : OpenTable) : Nat := directoryHeaderSize + 2 * t.slotCount.toNat

end OpenTable

/-- A buffer under construction. -/
structure Builder where
  bytes : ByteArray
  table : Option OpenTable
  lastTable : Option Offset
  deriving DecidableEq

namespace Builder

/-- The empty builder. -/
def new : Builder := ⟨LittleEndian.bytes headerSize 0, none, none⟩

instance : Inhabited Builder := ⟨new⟩

def offset? (region : Region) (position : Nat) : Except BuildError Offset :=
  if position < UInt32.size then .ok ⟨UInt32.ofNat position⟩
  else .error (.tooLarge region position)

def child (region : Region) (data : ByteArray) (b : Builder) :
    Except BuildError (Offset × Builder) := do
  if b.table.isSome then throw .tableOpen
  if UInt32.size ≤ data.size then throw (.tooLarge region data.size)
  let offset ← offset? region b.bytes.size
  return (offset, { b with bytes := b.bytes ++ LittleEndian.bytes 4 data.size ++ data })

def string (text : String) : Builder → Except BuildError (Offset × Builder) :=
  child .string text.toUTF8

def byteVector (data : ByteArray) : Builder → Except BuildError (Offset × Builder) :=
  child .byteVector data

def startTable (slotCount : UInt32) (b : Builder) : Except BuildError Builder :=
  if b.table.isSome then .error .tableOpen
  else if maxSlots < slotCount.toNat then .error (.tooManySlots slotCount)
  else .ok { b with table := some ⟨slotCount.toUInt16, #[]⟩ }

/-- The open table, if the slot can still be written. -/
def tableFor (slot : UInt16) (b : Builder) : Except BuildError OpenTable :=
  match b.table with
  | none => .error .noTableOpen
  | some t => do
    t.check slot
    return t

/-- Writes a value into a slot of the open table, unless it is the one that readers fall back to. -/
def push {α : Type} [Scalar α] (slot : UInt16) (value default : α) (b : Builder) :
    Except BuildError Builder := do
  let t ← b.tableFor slot
  if Scalar.same value default then return b
  else return { b with table := some (t.push slot (.inline (Scalar.bytes value))) }

/-- Whether a child could lie at the position: a length fits behind it. -/
def couldHold (b : Builder) (offset : Offset) : Bool :=
  headerSize ≤ offset.position.toNat && offset.position.toNat + 4 ≤ b.bytes.size

def pushOffset (slot : UInt16) (offset : Offset) (b : Builder) : Except BuildError Builder := do
  if !b.couldHold offset then throw (.invalidOffset offset.position)
  let t ← b.tableFor slot
  return { b with table := some (t.push slot (.child offset)) }

/-- The fields of a table laid out one after the other, and the distance of each from the start of
the table. -/
structure Body where
  bytes : ByteArray
  distances : Array UInt16

def Body.add (position : Nat) (body : Body) (field : UInt16 × Cell) : Except BuildError Body := do
  if UInt16.size ≤ body.bytes.size then throw (.tooLarge .table body.bytes.size)
  let (slot, cell) := field
  let fieldPosition := position + body.bytes.size
  match cell with
  | .child offset =>
    if UInt32.size ≤ fieldPosition - offset.position.toNat then
      throw (.tooLarge .buffer fieldPosition)
  | .inline _ => pure ()
  return {
    bytes := body.bytes ++ cell.bytesAt fieldPosition
    distances :=
      body.distances.setIfInBounds slot.toNat (UInt16.ofNat body.bytes.size) }

def write (t : OpenTable) (b : Builder) : Except BuildError (Offset × Builder) := do
  let size := t.directorySize
  let position := b.bytes.size + size
  let start : Body := ⟨LittleEndian.bytes 4 size, Array.replicate t.slotCount.toNat 0⟩
  let body ← t.fields.foldlM (Body.add position) start
  if UInt16.size ≤ body.bytes.size then throw (.tooLarge .table body.bytes.size)
  let offset ← offset? .buffer position
  let directory := body.distances.foldl (fun bytes d => bytes ++ LittleEndian.bytes 2 d.toNat)
    (b.bytes ++ LittleEndian.bytes 2 size ++ LittleEndian.bytes 2 body.bytes.size)
  return (offset, ⟨directory ++ body.bytes, none, some offset⟩)

/-- Closes the open table, which is given up if it cannot be written. -/
def endTable (b : Builder) : Except BuildError Offset × Builder :=
  match b.table with
  | none => (.error .noTableOpen, b)
  | some t =>
    match b.write t with
    | .ok (offset, b) => (.ok offset, b)
    | .error e => (.error e, { b with table := none })

/-- Hands out the bytes, with the position of the last table in front. The builder starts anew. -/
def release (b : Builder) : Except BuildError ByteArray × Builder :=
  match b.lastTable with
  | none => (.error .noRoot, b)
  | some root =>
    (.ok (LittleEndian.bytes headerSize root.position.toNat ++
      b.bytes.extract headerSize b.bytes.size), new)

/-- Closes the open table, if there is one, and hands out the bytes. -/
def finish (b : Builder) : Except BuildError ByteArray × Builder :=
  if b.table.isSome then
    match b.endTable with
    | (.ok _, b) => b.release
    | (.error e, b) => (.error e, b)
  else b.release

end Builder

end RecordStore.Buffer

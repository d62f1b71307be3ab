import RecordStore.Text.Quoted

/-! What goes wrong when buffers are built and read. -/
namespace RecordStore.Buffer

/-- A part of a buffer that has a limit of its own. -/
inductive Region
  | string
  | byteVector
  | directory
  | table
  | buffer
  deriving DecidableEq, Repr

def Region.name : Region → String
  | string => "string"
  | byteVector => "byte vector"
  | directory => "vtable"
  | table => "table"
  | buffer => "buffer"

/-- Why a call on a builder fails. -/
inductive BuildError
  | duplicateSlot (slot : UInt16)
  | invalidOffset (position : UInt32)
  | noRoot
  | noTableOpen
  | slotOutOfRange (slot slotCount : UInt16)
  | slotOverflow (slot : UInt16)
  | tableOpen
  | tooLarge (region : Region) (length : Nat)
  | tooManySlots (slotCount : UInt32)
  deriving DecidableEq, Repr

namespace BuildError

def message : BuildError → String
  | duplicateSlot slot => s!"slot {slot.toNat} was written twice"
  | invalidOffset position =>
    s!"offset {position.toNat} does not point at a child region of this buffer"
  | noRoot => "nothing to finish; no table was built"
  | noTableOpen => "no table is open"
  | slotOutOfRange slot slotCount =>
    s!"slot {slot.toNat} is outside the table's {slotCount.toNat} slots"
  | slotOverflow slot => s!"value for slot {slot.toNat} does not fit into its stored width"
  | tableOpen => "a table is open; children must be created before the table"
  | tooLarge region length => s!"{region.name} of {length} bytes exceeds the format limit"
  | tooManySlots slotCount => s!"{slotCount.toNat} slots exceed the vtable limit"

end BuildError

/-- Why bytes are no table. -/
inductive Flaw
  | rootInHeader
  | directoryOutOfRange
  | directoryLength
  | childOutOfRange
  deriving DecidableEq, Repr

def Flaw.message : Flaw → String
  | rootInHeader => "root points into the header"
  | directoryOutOfRange => "vtable reference is out of range"
  | directoryLength => "malformed vtable length"
  | childOutOfRange => "child reference is out of range"

/-- Why a buffer or one of its slots cannot be read. -/
inductive ReadError
  | invalidChar (directoryOffset : UInt16) (value : UInt32)
  | invalidTable (position : Nat) (flaw : Flaw)
  | invalidText (directoryOffset : UInt16)
  | outOfBounds (position needed length : Nat)
  deriving DecidableEq, Repr

namespace ReadError

def message : ReadError → String
  | invalidChar directoryOffset value =>
    s!"slot at vtable offset {directoryOffset.toNat} holds an invalid char 0x" ++
      String.ofList (Text.Quoted.hex value.toNat)
  | invalidTable position flaw => s!"invalid table at position {position}: {flaw.message}"
  | invalidText directoryOffset =>
    s!"slot at vtable offset {directoryOffset.toNat} holds invalid UTF-8"
  | outOfBounds position needed length =>
    s!"buffer too short: need {needed} bytes at position {position}, have {length}"

end ReadError

end RecordStore.Buffer

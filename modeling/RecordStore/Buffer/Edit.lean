import RecordStore.Buffer.Builder

/-! A builder that is changed in place while a call goes on: what a call changed before it failed
stays changed. -/
namespace RecordStore.Buffer

/-- Changes to a builder, up to an error. -/
abbrev Edit := EStateM BuildError Builder

namespace Edit

def append (bytes : ByteArray) : Edit Unit := modify fun b => { b with bytes := b.bytes ++ bytes }

def child (region : Region) (data : ByteArray) : Edit Offset := do
  if (← get).table.isSome then throw .tableOpen
  if UInt32.size ≤ data.size then throw (.tooLarge region data.size)
  let offset ← MonadExcept.ofExcept (Builder.offset? region (← get).bytes.size)
  append (LittleEndian.bytes 4 data.size)
  append data
  return offset

def startTable (slotCount : UInt32) : Edit Unit := do
  if (← get).table.isSome then throw .tableOpen
  if maxSlots < slotCount.toNat then throw (.tooManySlots slotCount)
  modify ({ · with table := some ⟨slotCount.toUInt16, #[]⟩ })

/-- The open table, if the slot can still be written. -/
def tableFor (slot : UInt16) : Edit OpenTable := do
  match (← get).table with
  | none => throw .noTableOpen
  | some t =>
    MonadExcept.ofExcept (t.check slot)
    return t

def push {α : Type} [Scalar α] (slot : UInt16) (value default : α) : Edit Unit := do
  let t ← tableFor slot
  if !Scalar.same value default then
    modify ({ · with table := some (t.push slot (.inline (Scalar.bytes value))) })

def pushOffset (slot : UInt16) (offset : Offset) : Edit Unit := do
  if !(← get).couldHold offset then throw (.invalidOffset offset.position)
  let t ← tableFor slot
  modify ({ · with table := some (t.push slot (.child offset)) })

/-- Closes the open table, which is taken out before it is known whether it can be written. -/
def endTable : Edit Offset := do
  match (← get).table with
  | none => throw .noTableOpen
  | some t =>
    modify ({ · with table := none })
    let size := t.directorySize
    let position := (← get).bytes.size + size
    let start : Builder.Body := ⟨LittleEndian.bytes 4 size, Array.replicate t.slotCount.toNat 0⟩
    let body ← MonadExcept.ofExcept (t.fields.foldlM (Builder.Body.add position) start)
    if UInt16.size ≤ body.bytes.size then throw (.tooLarge .table body.bytes.size)
    let offset ← MonadExcept.ofExcept (Builder.offset? .buffer position)
    append (LittleEndian.bytes 2 size)
    append (LittleEndian.bytes 2 body.bytes.size)
    body.distances.toList.forM fun d => append (LittleEndian.bytes 2 d.toNat)
    append body.bytes
    modify ({ · with lastTable := some offset })
    return offset

def reset : Edit Unit := set Builder.new

/-- Enters the position of the last table in front and hands out the bytes. -/
def release : Edit ByteArray := do
  match (← get).lastTable with
  | none => throw .noRoot
  | some root =>
    modify fun b => { b with
      bytes := LittleEndian.bytes headerSize root.position.toNat ++
        b.bytes.extract headerSize b.bytes.size }
    let bytes := (← get).bytes
    modify ({ · with bytes := .empty })
    reset
    return bytes

def finish : Edit ByteArray := do
  if (← get).table.isSome then
    let _ ← endTable
  release

end Edit

/-- A call on a builder. Its offsets may come from anywhere, another builder or an earlier buffer
included. -/
inductive Command
  | string (text : String)
  | byteVector (data : ByteArray)
  | startTable (slotCount : UInt32)
  | push {α : Type} [Scalar α] (slot : UInt16) (value default : α)
  | pushOffset (slot : UInt16) (offset : Offset)
  | endTable
  | finish
  | reset

/-- What a call returns that succeeds. -/
inductive Answer
  | done
  | placed (offset : Offset)
  | finished (bytes : ByteArray)
  deriving DecidableEq

def Command.edit : Command → Edit Answer
  | string text => return .placed (← Edit.child .string text.toUTF8)
  | byteVector data => return .placed (← Edit.child .byteVector data)
  | startTable slotCount => do
    Edit.startTable slotCount
    return .done
  | push slot value default => do
    Edit.push slot value default
    return .done
  | pushOffset slot offset => do
    Edit.pushOffset slot offset
    return .done
  | endTable => return .placed (← Edit.endTable)
  | finish => return .finished (← Edit.finish)
  | reset => do
    Edit.reset
    return .done

namespace Builder

/-- Makes a call: what it returns, and the builder that it leaves behind. -/
def perform (b : Builder) (c : Command) : Except BuildError Answer × Builder :=
  match c.edit.run b with
  | .ok answer b => (.ok answer, b)
  | .error e b => (.error e, b)

def reply (b : Builder) (c : Command) : Except BuildError Answer := (b.perform c).1

def next (b : Builder) (c : Command) : Builder := (b.perform c).2

/-- The builder that calls leave behind, whether they succeed or not. -/
def after (b : Builder) (cs : List Command) : Builder := cs.foldl next b

/-- What calls return, one after the other. -/
def replies (b : Builder) : List Command → List (Except BuildError Answer)
  | [] => []
  | c :: cs => b.reply c :: (b.next c).replies cs

end Builder

end RecordStore.Buffer

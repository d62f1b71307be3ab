import RecordStore.Binding.Basic
import RecordStore.Buffer.Table
import RecordStore.Record.Value

/-! Records as buffers: a slot for each field, in the order of the fields. -/
namespace RecordStore

open Buffer

namespace Value

/-- Writes a text or bytes as a child; other values have none. -/
def writeChild (v : Value) (b : Builder) : Except BuildError (Option Offset × Builder) :=
  match v with
  | text s => (b.string s).map fun (offset, b) => (some offset, b)
  | bytes d => (b.byteVector d).map fun (offset, b) => (some offset, b)
  | _ => .ok (none, b)

/-- Writes a value, or the reference to its child, into a slot. Values as wide as the machine have
to fit 32 bits. -/
def writeSlot (slot : UInt16) (v : Value) (child : Option Offset) (b : Builder) :
    Except BuildError Builder :=
  match v with
  | bool v => b.push slot v false
  | i8 v => b.push slot v 0
  | i16 v => b.push slot v 0
  | i32 v => b.push slot v 0
  | i64 v => b.push slot v 0
  | isize v =>
    if Int32.minValue.toInt64 ≤ v ∧ v ≤ Int32.maxValue.toInt64 then b.push slot v.toInt32 0
    else .error (.slotOverflow slot)
  | u8 v => b.push slot v 0
  | u16 v => b.push slot v 0
  | u32 v => b.push slot v 0
  | u64 v => b.push slot v 0
  | usize v =>
    if v.toNat < UInt32.size then b.push slot v.toUInt32 0 else .error (.slotOverflow slot)
  | char v => b.push slot v.val 0
  | f32 v => b.push slot v ⟨0⟩
  | f64 v => b.push slot v ⟨0⟩
  | text _ | bytes _ =>
    match child with
    | some offset => b.pushOffset slot offset
    | none => .ok b

end Value

namespace FieldType

def read (table : Table) (offset : UInt16) : FieldType → Except ReadError Value
  | bool => return .bool (← table.get offset false)
  | i8 => return .i8 (← table.get offset 0)
  | i16 => return .i16 (← table.get offset 0)
  | i32 => return .i32 (← table.get offset 0)
  | i64 => return .i64 (← table.get offset 0)
  | isize => return .isize (← table.get offset (0 : Int32)).toInt64
  | u8 => return .u8 (← table.get offset 0)
  | u16 => return .u16 (← table.get offset 0)
  | u32 => return .u32 (← table.get offset 0)
  | u64 => return .u64 (← table.get offset 0)
  | usize => return .usize (← table.get offset (0 : UInt32)).toUInt64
  | char => return .char (← table.char offset '\x00')
  | f32 => return .f32 (← table.get offset ⟨0⟩)
  | f64 => return .f64 (← table.get offset ⟨0⟩)
  | text => return .text (← table.string offset)
  | bytes => return .bytes (← table.byteVector offset)

theorem type_of_read {table : Table} {offset : UInt16} {t : FieldType} {v : Value}
    (h : read table offset t = .ok v) : v.type = t := by
  cases t <;>
    · simp only [read, bind, Except.bind, pure, Except.pure] at h
      split at h
      · cases h
      · cases h
        rfl

end FieldType

def Record.read (table : Table) :
    (fields : List BoundField) → Except ReadError (Record (fields.map BoundField.type))
  | [] => .ok .nil
  | f :: fields =>
    match h : f.type.read table f.property.directoryOffset with
    | .error e => .error e
    | .ok v => (Record.read table fields).map (.cons v (FieldType.type_of_read h))

namespace Binding

def identifierIndex (b : Binding) : Nat := b.fields.findIdx (·.property.isIdentifier)

def id (b : Binding) (r : Record b.types) : UInt64 :=
  match r.values[b.identifierIndex]? with
  | some (.u64 id) => id
  | _ => 0

def setId (b : Binding) (r : Record b.types) (id : UInt64) : Record b.types :=
  r.set b.identifierIndex (.u64 id)

def writeChildren : List Value → Builder → Except BuildError (List (Option Offset) × Builder)
  | [], builder => .ok ([], builder)
  | v :: values, builder => do
    let (child, builder) ← v.writeChild builder
    let (children, builder) ← writeChildren values builder
    return (child :: children, builder)

/-- Writes one field; the identifier takes the given id. -/
def writeField (id : UInt64) (builder : Builder) (entry : BoundField × Value × Option Offset) :
    Except BuildError Builder :=
  let (f, v, child) := entry
  if f.property.isIdentifier then builder.push f.property.slot id 0
  else v.writeSlot f.property.slot child builder

/-- Writes the children of a record and opens and fills its table. -/
def flatten (b : Binding) (r : Record b.types) (id : UInt64) (builder : Builder) :
    Except BuildError Builder := do
  let (children, builder) ← writeChildren r.values builder
  let builder ← builder.startTable b.entity.slotCount
  (b.fields.zip (r.values.zip children)).foldlM (writeField id) builder

/-- The buffer of a record stored under an id. -/
def encode (b : Binding) (r : Record b.types) (id : UInt64) : Except BuildError ByteArray := do
  (← b.flatten r id .new).finish.1

/-- The record that a buffer holds. -/
def decode (b : Binding) (bytes : ByteArray) : Except ReadError (Record b.types) := do
  Record.read (← Table.root bytes) b.fields

def decodeAll (b : Binding) (buffers : List ByteArray) : Except ReadError (List (Record b.types)) :=
  buffers.mapM b.decode

end Binding

end RecordStore

import RecordStore.Bytes
import RecordStore.Number.Binary
import RecordStore.Schema.SemanticType

/-! Records: a value for each field, of the field's type. -/
namespace RecordStore

/-- A value of a field. The two types as wide as the machine have 64 bits. -/
inductive Value
  | bool (value : Bool)
  | i8 (value : Int8)
  | i16 (value : Int16)
  | i32 (value : Int32)
  | i64 (value : Int64)
  | isize (value : Int64)
  | u8 (value : UInt8)
  | u16 (value : UInt16)
  | u32 (value : UInt32)
  | u64 (value : UInt64)
  | usize (value : UInt64)
  | char (value : Char)
  | f32 (value : Binary32)
  | f64 (value : Binary64)
  | text (value : String)
  | bytes (value : ByteArray)
  deriving DecidableEq

namespace Value

def type : Value → FieldType
  | bool _ => .bool
  | i8 _ => .i8
  | i16 _ => .i16
  | i32 _ => .i32
  | i64 _ => .i64
  | isize _ => .isize
  | u8 _ => .u8
  | u16 _ => .u16
  | u32 _ => .u32
  | u64 _ => .u64
  | usize _ => .usize
  | char _ => .char
  | f32 _ => .f32
  | f64 _ => .f64
  | text _ => .text
  | bytes _ => .bytes

def zero : FieldType → Value
  | .bool => bool false
  | .i8 => i8 0
  | .i16 => i16 0
  | .i32 => i32 0
  | .i64 => i64 0
  | .isize => isize 0
  | .u8 => u8 0
  | .u16 => u16 0
  | .u32 => u32 0
  | .u64 => u64 0
  | .usize => usize 0
  | .char => char '\x00'
  | .f32 => f32 ⟨0⟩
  | .f64 => f64 ⟨0⟩
  | .text => text ""
  | .bytes => bytes .empty

/-- A new value, if it is of the type of the old one. -/
def replaceBy (v old : Value) : Value := if old.type = v.type then v else old

@[simp] theorem type_zero (t : FieldType) : (zero t).type = t := by cases t <;> rfl

@[simp] theorem type_replaceBy (v old : Value) : (replaceBy v old).type = old.type := by
  unfold replaceBy
  split
  · next h => exact h.symm
  · rfl

end Value

/-- Values of the given types, in order. -/
structure Record (types : List FieldType) where
  values : List Value
  typed : values.map Value.type = types
  deriving DecidableEq

namespace Record

variable {types : List FieldType}

def zero (types : List FieldType) : Record types where
  values := types.map Value.zero
  typed := by simp [Function.comp_def]

instance : Inhabited (Record types) := ⟨zero types⟩

/-- The record of the given values, if they have the types. -/
def ofValues? (types : List FieldType) (values : List Value) : Option (Record types) :=
  if h : values.map Value.type = types then some ⟨values, h⟩ else none

def nil : Record [] := ⟨[], rfl⟩

def cons {t : FieldType} (v : Value) (h : v.type = t) (r : Record types) : Record (t :: types) where
  values := v :: r.values
  typed := by rw [List.map_cons, h, r.typed]

/-- The record with another value in one place, if it is of the right type. -/
def set (r : Record types) (index : Nat) (v : Value) : Record types where
  values := r.values.modify index (Value.replaceBy v)
  typed := by
    refine Eq.trans (List.ext_getElem? ?_) r.typed
    intro i
    simp only [List.getElem?_map, List.getElem?_modify]
    cases r.values[i]? with
    | none => rfl
    | some old => by_cases h : index = i <;> simp [h]

@[simp] theorem values_zero : (zero types).values = types.map Value.zero := rfl

theorem length_values (r : Record types) : r.values.length = types.length := by
  have h := congrArg List.length r.typed
  simpa using h

end Record

end RecordStore

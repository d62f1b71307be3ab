import RecordStore.Text.LetterCase

/-! Storage types of properties. -/
namespace RecordStore

/-- How the store keeps the values of a property. -/
inductive PropertyType
  | bool
  | byte
  | short
  | char
  | int
  | long
  | float
  | double
  | string
  | date
  | relation
  | byteVector
  | stringVector
  deriving DecidableEq, Repr, Inhabited

namespace PropertyType

def all : List PropertyType := [
  .bool, .byte, .short, .char, .int, .long, .float, .double, .string, .date, .relation,
  .byteVector, .stringVector]

def name : PropertyType → String
  | bool => "Bool"
  | byte => "Byte"
  | short => "Short"
  | char => "Char"
  | int => "Int"
  | long => "Long"
  | float => "Float"
  | double => "Double"
  | string => "String"
  | date => "Date"
  | relation => "Relation"
  | byteVector => "ByteVector"
  | stringVector => "StringVector"

/-- The number that stands for the type in a stored model. -/
def code : PropertyType → Nat
  | bool => 1
  | byte => 2
  | short => 3
  | char => 4
  | int => 5
  | long => 6
  | float => 7
  | double => 8
  | string => 9
  | date => 10
  | relation => 11
  | byteVector => 23
  | stringVector => 30

/-- Whether values lie outside the table and are referred to by their distance. -/
def isOffset : PropertyType → Bool
  | string | byteVector | stringVector => true
  | _ => false

def width? : PropertyType → Option Nat
  | bool | byte => some 1
  | short => some 2
  | char | int | float => some 4
  | long | double | date | relation => some 8
  | string | byteVector | stringVector => none

def ofName? (name : String) : Option PropertyType := all.find? (·.name == name)

def parse? (text : String) : Option PropertyType :=
  all.find? fun t => Text.LetterCase.toLower t.name.toList == Text.LetterCase.toLower text.toList

end PropertyType

end RecordStore

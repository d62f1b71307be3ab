import RecordStore.Text.Blank
import RecordStore.PropertyType

/-! Types of record fields, and the storage that each calls for. -/
namespace RecordStore

/-- Types of fields that records can hold. -/
inductive FieldType
  | bool
  | i8
  | i16
  | i32
  | i64
  | isize
  | u8
  | u16
  | u32
  | u64
  | usize
  | char
  | f32
  | f64
  | text
  | bytes
  deriving DecidableEq, Repr, Inhabited

/-- Types that a schema can name: those of fields, and lists of texts, which have no encoding. -/
inductive SemanticType
  | field (type : FieldType)
  | textList
  deriving DecidableEq, Repr, Inhabited

/-- Where a value lies: in the table itself, or outside and referred to by its distance. -/
inductive Placement
  | inline
  | child
  deriving DecidableEq, Repr, Inhabited

namespace Placement

def name : Placement → String
  | inline => "Fixed"
  | child => "Offset"

end Placement

namespace FieldType

def all : List FieldType := [
  .bool, .i8, .i16, .i32, .i64, .isize, .u8, .u16, .u32, .u64, .usize, .char, .f32, .f64, .text,
  .bytes]

/-- The type as record declarations and schemas spell it. -/
def spelling : FieldType → String
  | bool => "bool"
  | i8 => "i8"
  | i16 => "i16"
  | i32 => "i32"
  | i64 => "i64"
  | isize => "isize"
  | u8 => "u8"
  | u16 => "u16"
  | u32 => "u32"
  | u64 => "u64"
  | usize => "usize"
  | char => "char"
  | f32 => "f32"
  | f64 => "f64"
  | text => "String"
  | bytes => "Vec<u8>"

def storeType : FieldType → PropertyType
  | bool => .bool
  | i8 | u8 => .byte
  | i16 | u16 => .short
  | char => .char
  | i32 | u32 | isize | usize => .int
  | i64 | u64 => .long
  | f32 => .float
  | f64 => .double
  | text => .string
  | bytes => .byteVector

def isUnsigned : FieldType → Bool
  | u8 | u16 | u32 | u64 | usize => true
  | _ => false

/-- Whether the type is as wide as the machine, and stored in 32 bits. -/
def isPlatformWide : FieldType → Bool
  | isize | usize => true
  | _ => false

end FieldType

namespace SemanticType

def all : List SemanticType := FieldType.all.map .field ++ [.textList]

def spelling : SemanticType → String
  | field t => t.spelling
  | textList => "Vec<String>"

def storeType : SemanticType → PropertyType
  | field t => t.storeType
  | textList => .stringVector

def placement (t : SemanticType) : Placement := if t.storeType.isOffset then .child else .inline

def isUnsigned : SemanticType → Bool
  | field t => t.isUnsigned
  | textList => false

def isPlatformWide : SemanticType → Bool
  | field t => t.isPlatformWide
  | textList => false

/-- The type that a text spells, blanks anywhere apart. -/
def parse? (text : String) : Option SemanticType :=
  all.find? fun t => t.spelling.toList == text.toList.filter fun c => !Text.isBlank c

def unknownMessage (text : String) : String := s!"unknown semantic type '{text}'"

end SemanticType

end RecordStore

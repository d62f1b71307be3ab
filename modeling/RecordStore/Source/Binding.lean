import RecordStore.Binding.Basic
import RecordStore.Source.Path

/-! Source of bindings: the handles of the properties, and how records are registered, encoded and
decoded. -/
namespace RecordStore

open Source

namespace Source.Code

def outcome (value error : Code) : Code :=
  ofWords ":: std :: result :: Result" ++ angle (value ++ [","] ++ error)

/-- The code of nothing. -/
def unit : Code := paren []

/-- A successful outcome without a value. -/
def success : Code := ["Ok"] ++ paren unit

/-- The end of a statement that may fail. -/
def orFail : Code := ["?", ";"]

def tryCall (function : String) (parts : List Code) : Code :=
  ofWords function ++ arguments parts ++ orFail

def pushSlot (type : String) (slot value default : Code) : Code :=
  ofWords s!"fbb . push_slot :: < {type} >" ++ arguments [slot, value, default] ++ orFail

def getSlot (type : String) (offset default : Code) : Code :=
  ofWords s!"table . get_slot :: < {type} >" ++ arguments [offset, default] ++ ["?"]

end Source.Code

namespace PropertyFlags

/-- The flags as an expression: the named ones, and what is left over as bits. -/
def code (path : Source.Path) (f : PropertyFlags) : Code :=
  let named := f.names.map fun name => path.member "PropertyFlags" ++ ["::", name]
  let unknown := f.unknownBits
  let rest := if unknown = 0 then [] else
    [path.member "PropertyFlags" ++ ["::", "from_bits_retain"] ++
      Code.paren (Code.ofNat unknown.toNat)]
  List.intercalate ["|"] (named ++ rest)

end PropertyFlags

namespace FieldType

/-- The value of the type that is not stored. -/
def zeroCode : FieldType → Code
  | f32 | f64 => ["0.0"]
  | bool => ["false"]
  | _ => ["0"]

end FieldType

namespace BoundField

def access (f : BoundField) : Code := ["entity", "."] ++ Code.ofIdentifier f.name

def handleCode (path : Source.Path) (e : Entity) (f : BoundField) : Code :=
  ["pub", "const"] ++ Code.ofIdentifier f.handle ++ [":"] ++ path.member "Property" ++ ["="] ++
    path.member "Property" ++ ["::", "new"] ++
    Code.arguments [Code.ofNat e.id.toNat, Code.ofNat f.property.id.toNat] ++ [";"]

def registrationCode (path : Source.Path) (f : BoundField) : Code :=
  let p := f.property
  Code.tryCall "model . property" [
    Code.ofText p.storeName, path.member "PropertyType" ++ ["::", p.storeType.name],
    Code.ofNat p.id.toNat, Code.ofNat p.uid.toNat] ++
    if p.flags.isEmpty then [] else Code.tryCall "model . property_flags" [p.flags.code path]

def childCode (f : BoundField) : Code :=
  let created (function : String) : Code :=
    ["let"] ++ Code.ofIdentifier f.child ++ ["="] ++
      Code.tryCall ("fbb . " ++ function) [["&"] ++ f.access]
  match f.type with
  | .text => created "create_string"
  | .bytes => created "create_byte_vector"
  | _ => []

def narrowed (path : Source.Path) (type : String) (f : BoundField) : Code :=
  let slot := Code.ofNat f.property.slot.toNat
  Code.ofWords s!"{type} :: try_from" ++ Code.paren f.access ++ [".", "map_err"] ++
    Code.paren (["|", "_", "|"] ++ path.member "BufferError" ++ ["::", "SlotOverflow"] ++
      Code.brace (["slot", ":"] ++ slot)) ++ ["?"]

def writeCode (path : Source.Path) (f : BoundField) : Code :=
  let slot := Code.ofNat f.property.slot.toNat
  if f.property.isIdentifier then Code.pushSlot "u64" slot ["id"] ["0"]
  else
    match f.type with
    | .text | .bytes => Code.tryCall "fbb . push_offset_slot" [slot, Code.ofIdentifier f.child]
    | .char => Code.pushSlot "u32" slot (Code.ofWords "u32 :: from" ++ Code.paren f.access) ["0"]
    | .isize =>
      Code.ofWords "fbb . push_slot :: < i32 >" ++
        Code.paren (slot ++ [","] ++ f.narrowed path "i32" ++ [",", "0", ","]) ++ Code.orFail
    | .usize =>
      Code.ofWords "fbb . push_slot :: < u32 >" ++
        Code.paren (slot ++ [","] ++ f.narrowed path "u32" ++ [",", "0", ","]) ++ Code.orFail
    | t => Code.pushSlot t.spelling slot f.access t.zeroCode

def readCode (f : BoundField) : Code :=
  let offset := Code.ofNat f.property.directoryOffset.toNat
  let value :=
    match f.type with
    | .text => Code.ofWords "table . get_str_slot" ++ Code.paren offset ++
        Code.ofWords "? . to_owned" ++ Code.unit
    | .bytes => Code.ofWords "table . get_bytes_slot" ++ Code.paren offset ++
        Code.ofWords "? . to_vec" ++ Code.unit
    | .char => Code.ofWords "table . get_char_slot" ++ Code.arguments [offset, ["'\\0'"]] ++ ["?"]
    | .isize => Code.getSlot "i32" offset ["0"] ++ ["as", "isize"]
    | .usize => Code.getSlot "u32" offset ["0"] ++ ["as", "usize"]
    | t => Code.getSlot t.spelling offset t.zeroCode
  Code.ofIdentifier f.name ++ [":"] ++ value ++ [","]

end BoundField

namespace Binding

def addToModelCode (path : Source.Path) (b : Binding) : Code :=
  let e := b.entity
  Code.ofWords "fn add_to_model" ++
    Code.paren (Code.ofWords "& self , model : & mut" ++ path.member "ModelBuilder" ++ [","]) ++
    ["->"] ++ Code.outcome Code.unit (path.member "ModelError") ++
    Code.brace (
      Code.tryCall "model . entity"
        [Code.ofText e.name, Code.ofNat e.id.toNat, Code.ofNat e.uid.toNat] ++
      b.fields.flatMap (·.registrationCode path) ++
      Code.tryCall "model . entity_last_property_id"
        [Code.ofNat e.lastPropertyId.id.toNat, Code.ofNat e.lastPropertyId.uid.toNat] ++
      Code.success)

def idCode (b : Binding) : Code :=
  let record := Code.ofIdentifier b.record
  Code.ofWords "fn id" ++ Code.paren (Code.ofWords "& self , entity : &" ++ record) ++
    ["->", "u64"] ++ Code.brace b.identifier.access ++
    Code.ofWords "fn set_id" ++
    Code.paren (Code.ofWords "& self , entity : & mut" ++ record ++ Code.ofWords ", id : u64") ++
    Code.brace (b.identifier.access ++ Code.ofWords "= id ;")

def flattenCode (path : Source.Path) (b : Binding) : Code :=
  let parameter := if b.entity.storesMore then "entity" else "_entity"
  Code.ofWords "fn flatten" ++
    Code.paren (["&", "self", ",", parameter, ":", "&"] ++ Code.ofIdentifier b.record ++
      Code.ofWords ", fbb : & mut" ++ path.member "BufferBuilder" ++
      Code.ofWords ", id : u64 ,") ++
    ["->"] ++ Code.outcome Code.unit (path.member "Error") ++
    Code.brace (
      b.fields.flatMap BoundField.childCode ++
      Code.tryCall "fbb . start_table" [Code.ofNat b.entity.slotCount.toNat] ++
      b.fields.flatMap (·.writeCode path) ++ Code.success)

def toObjectCode (path : Source.Path) (b : Binding) : Code :=
  let record := Code.ofIdentifier b.record
  Code.ofWords "fn to_object" ++
    Code.paren (Code.ofWords "& self , bytes : &" ++ Code.bracket ["u8"]) ++
    ["->"] ++ Code.outcome record (path.member "Error") ++
    Code.brace (
      Code.ofWords "let table =" ++ path.member "Table" ++ Code.tryCall ":: root" [["bytes"]] ++
      ["Ok"] ++ Code.paren (record ++ Code.brace (b.fields.flatMap BoundField.readCode)))

def constantsCode (path : Source.Path) (b : Binding) : Code :=
  let e := b.entity
  Code.ofWords "type Entity =" ++ Code.ofIdentifier b.record ++ [";"] ++
    Code.ofWords "const ENTITY_ID :" ++ path.member "TypeId" ++ ["="] ++ path.member "TypeId" ++
    ["::", "new"] ++ Code.paren (Code.ofNat e.id.toNat) ++ [";"] ++
    Code.ofWords "const ENTITY_UID : u64 =" ++ Code.ofNat e.uid.toNat ++ [";"] ++
    Code.ofWords "const ENTITY_NAME : & 'static str =" ++ Code.ofText e.name ++ [";"]

/-- The box of the entity, and the function that opens it. -/
def boxCode (path : Source.Path) (b : Binding) : Code :=
  ["pub", "type", b.boxName, "="] ++ path.member "EntityBox" ++ Code.angle [b.typeName] ++
    [";"] ++
    Code.comment "Open the box for this entity on `store`." ++
    ["pub", "fn"] ++ Code.ofIdentifier b.boxFunction ++
    Code.paren (Code.ofWords "store : &" ++ path.member "Store") ++
    ["->"] ++ Code.outcome [b.boxName] (path.member "Error") ++
    Code.brace (Code.ofWords "store . box_for ::" ++ Code.angle [b.typeName] ++ Code.unit)

def code (path : Source.Path) (b : Binding) : Code :=
  ["#", "[derive (Clone , Copy , Debug , Default)]", "pub", "struct", b.typeName, ";", "impl",
    b.typeName] ++
    Code.brace (b.fields.flatMap (·.handleCode path b.entity)) ++
    ["#", "[allow (clippy :: all , clippy :: pedantic , clippy :: nursery)]", "impl"] ++
    path.member "Binding" ++ ["for", b.typeName] ++
    Code.brace (b.constantsCode path ++ b.addToModelCode path ++ b.idCode ++
      b.flattenCode path ++ b.toObjectCode path) ++
    b.boxCode path

end Binding

namespace Schema

def modelCode (path : Source.Path) (function : Text.Identifier) (s : Schema)
    (bindings : List Binding) : Code :=
  Code.comment "Model covering every generated entity, ready for `StoreBuilder::model`." ++
    ["pub", "fn"] ++ Code.ofIdentifier function ++ Code.unit ++ ["->"] ++
    Code.outcome (path.member "Model") (path.member "ModelError") ++
    Code.brace (
      Code.ofWords "let mut model =" ++ path.member "ModelBuilder" ++ ["::", "new"] ++
      Code.unit ++ [";"] ++
      (bindings.flatMap fun b =>
        path.member "Binding" ++
          Code.tryCall ":: add_to_model" [["&", b.typeName], Code.ofWords "& mut model"]) ++
      Code.ofWords "model . last_entity_id" ++
      Code.arguments [Code.ofNat s.lastEntityId.id.toNat, Code.ofNat s.lastEntityId.uid.toNat] ++
      [";"] ++ Code.ofWords "model . build" ++ Code.unit)

end Schema

end RecordStore

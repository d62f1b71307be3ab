import RecordStore.Json.Reader
import RecordStore.Schema.Basic

/-! The written form of schemas. -/
namespace RecordStore

namespace IdUid

def ofValue : Json.Value → Json.Outcome IdUid :=
  Json.Value.parsedText fun text => (parse text).mapError IdUidError.message

end IdUid

namespace SemanticType

def ofValue : Json.Value → Json.Outcome SemanticType :=
  Json.Value.parsedText fun text =>
    match parse? text with
    | some t => .ok t
    | none => .error (unknownMessage text)

end SemanticType

namespace PropertyType

def ofValue : Json.Value → Json.Outcome PropertyType :=
  Json.Value.choice (all.map fun t => (t.name, t))

end PropertyType

namespace Placement

def ofValue : Json.Value → Json.Outcome Placement :=
  Json.Value.choice [("fixed", .inline), ("offset", .child)]

end Placement

namespace PropertyFlags

def ofValue (v : Json.Value) : Json.Outcome PropertyFlags := do return ⟨← v.word32⟩

end PropertyFlags

/-- A field whose value goes into one place of the draft. -/
def placedField {δ α : Type} (name : String) (required : Bool) (read : Json.Value → Json.Outcome α)
    (get : δ → Option α) (set : δ → α → δ) : Json.Field δ where
  name := name
  required := required
  present draft := (get draft).isSome
  read v draft := do return set draft (← read v)

namespace Property

/-- The fields of a property read so far. -/
structure Draft where
  id : Option IdUid := none
  name : Option String := none
  type : Option SemanticType := none
  storeName : Option (Option String) := none
  storeType : Option (Option PropertyType) := none
  placement : Option (Option Placement) := none
  flags : Option (Option PropertyFlags) := none

def shape : Json.Shape Draft where
  name := "PropertyDef"
  fields := [
    placedField "id" true IdUid.ofValue Draft.id ({ · with id := some · }),
    placedField "name" true Json.Value.text Draft.name ({ · with name := some · }),
    placedField "type" true SemanticType.ofValue Draft.type ({ · with type := some · }),
    placedField "storeName" false (Json.Value.optional Json.Value.text) Draft.storeName
      ({ · with storeName := some · }),
    placedField "storeType" false (Json.Value.optional PropertyType.ofValue) Draft.storeType
      ({ · with storeType := some · }),
    placedField "bufferKind" false (Json.Value.optional Placement.ofValue) Draft.placement
      ({ · with placement := some · }),
    placedField "flags" false (Json.Value.optional PropertyFlags.ofValue) Draft.flags
      ({ · with flags := some · })]

/-- The property of a complete draft. What the draft leaves open follows from the type. -/
def Draft.finish (d : Draft) : Property :=
  let p := Property.ofType (d.id.getD default) (d.name.getD "") (d.type.getD default)
  let p := d.storeName.join.elim p p.withStoreName
  let p := d.storeType.join.elim p p.withStoreType
  let p := d.placement.join.elim p p.withPlacement
  d.flags.join.elim p p.withFlags

def ofValue (v : Json.Value) : Json.Outcome Property := do
  return (← shape.read {} v).finish

end Property

namespace Entity

/-- The fields of an entity read so far. -/
structure Draft where
  id : Option IdUid := none
  name : Option String := none
  lastPropertyId : Option IdUid := none
  properties : Option (List Property) := none

def shape : Json.Shape Draft where
  name := "EntityDef"
  fields := [
    placedField "id" true IdUid.ofValue Draft.id ({ · with id := some · }),
    placedField "name" true Json.Value.text Draft.name ({ · with name := some · }),
    placedField "lastPropertyId" true IdUid.ofValue Draft.lastPropertyId
      ({ · with lastPropertyId := some · }),
    placedField "properties" false (Json.Value.list Property.ofValue) Draft.properties
      ({ · with properties := some · })]

/-- The entity of a complete draft, with its identifier resolved. -/
def Draft.finish (d : Draft) : Entity :=
  let e := Entity.ofName (d.id.getD default) (d.name.getD "") (d.lastPropertyId.getD default)
  ((d.properties.getD []).foldl Entity.push e).resolveIdentifier

def ofValue (v : Json.Value) : Json.Outcome Entity := do
  return (← shape.read {} v).finish

end Entity

namespace Schema

/-- The fields of a schema read so far. -/
structure Draft where
  lastEntityId : Option IdUid := none
  entities : Option (List Entity) := none

def shape : Json.Shape Draft where
  name := "ModelDef"
  fields := [
    placedField "lastEntityId" true IdUid.ofValue Draft.lastEntityId
      ({ · with lastEntityId := some · }),
    placedField "entities" false (Json.Value.list Entity.ofValue) Draft.entities
      ({ · with entities := some · })]

def Draft.finish (d : Draft) : Schema :=
  ⟨(d.entities.getD []).toArray, d.lastEntityId.getD default⟩

def ofValue (v : Json.Value) : Json.Outcome Schema := do
  return (← shape.read {} v).finish

/-- Reads the text of a schema, which is not validated. -/
def parse (text : String) : Json.Outcome Schema := Json.readText ofValue text

/-- Why no schema could be had. -/
inductive LoadError
  /-- The file is missing or not a text. -/
  | unreadable
  | invalid (cause : Json.Error)
  deriving DecidableEq, Repr

def mismatchMessage (cause : Json.Mismatch) : String := s!"schema json is invalid: {cause.message}"

/-- Reads the contents of a file, if there is one, as a schema. -/
def ofFile (contents : Option ByteArray) : Except LoadError Schema :=
  match contents.bind String.fromUTF8? with
  | none => .error .unreadable
  | some text => (parse text).mapError .invalid

end Schema

end RecordStore

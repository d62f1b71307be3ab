import RecordStore.Model.Builder
import RecordStore.Schema.Basic
import RecordStore.Source.Error
import RecordStore.Text.Identifier

/-! Bindings: entities whose records can be encoded, with the names that generated source uses. -/
namespace RecordStore

open Text (Identifier)

/-- A property that has an encoding. -/
structure BoundField where
  property : Property
  type : FieldType
  /-- The field of the record. -/
  name : Identifier
  /-- The variable that holds the position of a child. -/
  child : Identifier
  /-- The constant that names the property in conditions. -/
  handle : Identifier
  deriving DecidableEq, Repr

/-- An entity whose records can be encoded. -/
structure Binding where
  entity : Entity
  fields : List BoundField
  identifier : BoundField
  /-- The record type. -/
  record : Identifier
  /-- The function that opens the box. -/
  boxFunction : Identifier
  deriving DecidableEq, Repr

def identifierFor (name : String) : Except GenerationError Identifier :=
  match Identifier.parse? name with
  | some i => .ok i
  | none => .error (.invalidIdentifier name)

namespace BoundField

/-- The type of a property, if it has an encoding and is declared as the encoding needs it. -/
def encodingOf (e : Entity) (p : Property) : Except GenerationError FieldType :=
  match p.type with
  | .textList => .error (.unsupportedType e.name p.name p.type)
  | .field t =>
    if p.placement ≠ p.type.placement then
      .error (.placementMismatch e.name p.name p.type p.placement)
    else if p.storeType ≠ p.type.storeType then
      .error (.storeTypeMismatch e.name p.name p.type p.storeType)
    else .ok t

/-- Binds a property. Names derived from a raw identifier come from the word without its mark. -/
def ofProperty (e : Entity) (p : Property) : Except GenerationError BoundField := do
  let type ← encodingOf e p
  let name ← identifierFor p.name
  let child ← identifierFor ("offset_" ++ name.name)
  let handle ← identifierFor (Text.Words.constant name.name)
  return ⟨p, type, name, child, handle⟩

def modelCalls (f : BoundField) : List ModelCall :=
  let p := f.property
  .property p.storeName p.storeType p.id p.uid ::
    if p.flags.isEmpty then [] else [.flags p.flags]

end BoundField

namespace Binding

def ofEntity (e : Entity) : Except GenerationError Binding := do
  let fields ← e.properties.toList.mapM (BoundField.ofProperty e)
  match fields.find? (·.property.isIdentifier) with
  | none => throw (.identifierMissing e.name)
  | some identifier =>
    let record ← identifierFor e.name
    let boxFunction ← identifierFor ("box_for_" ++ Text.Words.snake e.name)
    return ⟨e, fields, identifier, record, boxFunction⟩

def types (b : Binding) : List FieldType := b.fields.map BoundField.type

def typeName (b : Binding) : String := b.record.name ++ "Binding"

def boxName (b : Binding) : String := b.record.name ++ "Box"

def modelCalls (b : Binding) : List ModelCall :=
  .entity b.entity.name b.entity.id b.entity.uid :: b.fields.flatMap BoundField.modelCalls ++
    [.lastPropertyId b.entity.lastPropertyId]

end Binding

namespace Schema

def bindings (s : Schema) : Except GenerationError (List Binding) :=
  s.entities.toList.mapM Binding.ofEntity

def modelCalls (s : Schema) (bindings : List Binding) : List ModelCall :=
  bindings.flatMap Binding.modelCalls ++ [.lastEntityId s.lastEntityId]

end Schema

end RecordStore

import RecordStore.Schema.ErrorTree
import RecordStore.Schema.SemanticType

/-! What keeps source from being generated. -/
namespace RecordStore

/-- Why no source is generated. -/
inductive GenerationError
  | invalidIdentifier (name : String)
  | invalidRuntimePath (path : String)
  | unsupportedType (entity property : String) (type : SemanticType)
  | placementMismatch (entity property : String) (type : SemanticType) (declared : Placement)
  | storeTypeMismatch (entity property : String) (type : SemanticType) (declared : PropertyType)
  | identifierMissing (entity : String)
  | invalidSchema (issues : ErrorTree)
  deriving Repr

namespace GenerationError

def message : GenerationError → String
  | invalidIdentifier name => s!"'{name}' is not a valid Rust identifier"
  | invalidRuntimePath path => s!"'{path}' is not a valid runtime crate path"
  | unsupportedType entity property type =>
    s!"{entity}.{property}: no encoding rule for type {type.spelling}"
  | placementMismatch entity property type declared =>
    s!"{entity}.{property}: buffer kind {declared.name} does not fit type {type.spelling} " ++
      s!"(expected {type.placement.name})"
  | storeTypeMismatch entity property type declared =>
    s!"{entity}.{property}: store type {declared.name} does not fit type {type.spelling} " ++
      s!"(expected {type.storeType.name})"
  | identifierMissing entity => s!"entity '{entity}': no identifier property"
  | invalidSchema issues => "schema validation failed:\n" ++ issues.render

end GenerationError

end RecordStore

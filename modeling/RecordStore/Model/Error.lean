/-! What goes wrong when models are built. -/
namespace RecordStore

/-- A call that needs something to apply to. -/
inductive ModelOperation
  | property
  | flags
  | lastPropertyId
  deriving DecidableEq, Repr

def ModelOperation.name : ModelOperation → String
  | property => "property"
  | flags => "property_flags"
  | lastPropertyId => "entity_last_property_id"

/-- What is wrong with the identifier of an entity. -/
inductive IdentifierFault
  | missing
  | repeated
  | notLong
  deriving DecidableEq, Repr

def IdentifierFault.reason : IdentifierFault → String
  | missing => "no identifier property"
  | repeated => "multiple identifier properties"
  | notLong => "identifier property must be stored as Long"

/-- Why a call on a model builder fails. -/
inductive ModelError
  | duplicateEntity (id : UInt32)
  | duplicateProperty (entity : String) (id : UInt32)
  | entityIdAboveLast (id last : UInt32)
  | identifier (entity : String) (fault : IdentifierFault)
  | invalidEntityId (name : String)
  | invalidPropertyId (entity name : String)
  | missingLastPropertyId (entity : String)
  | noEntities
  | noEntity (operation : ModelOperation)
  | noProperty (operation : ModelOperation)
  | propertyIdAboveLast (entity : String) (id last : UInt32)
  deriving DecidableEq, Repr

namespace ModelError

def message : ModelError → String
  | duplicateEntity id => s!"entity id {id.toNat} is registered twice"
  | duplicateProperty entity id =>
    s!"entity '{entity}': property id {id.toNat} is registered twice"
  | entityIdAboveLast id last =>
    s!"entity id {id.toNat} is above the last entity id {last.toNat}"
  | identifier entity fault => s!"entity '{entity}': {fault.reason}"
  | invalidEntityId name => s!"entity '{name}' must have non-zero id and uid"
  | invalidPropertyId entity name => s!"property '{entity}.{name}' must have non-zero id and uid"
  | missingLastPropertyId entity => s!"entity '{entity}' has no last property id"
  | noEntities => "model has no entities"
  | noEntity operation => s!"{operation.name} called before any entity was added"
  | noProperty operation => s!"{operation.name} called before any property was added"
  | propertyIdAboveLast entity id last =>
    s!"entity '{entity}': property id {id.toNat} is above the last property id {last.toNat}"

end ModelError

end RecordStore

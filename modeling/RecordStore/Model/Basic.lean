import RecordStore.Buffer.Builder
import RecordStore.IdUid
import RecordStore.PropertyFlags
import RecordStore.PropertyType

/-! Models: what an opened store knows about its entities. -/
namespace RecordStore

/-- A stored property. -/
structure ModelProperty where
  id : UInt32
  uid : UInt64
  name : String
  type : PropertyType
  flags : PropertyFlags
  deriving DecidableEq, Repr, Inhabited

namespace ModelProperty

def isIdentifier (p : ModelProperty) : Bool := p.flags.contains .identifier

def isUnsigned (p : ModelProperty) : Bool := p.flags.contains .unsigned

end ModelProperty

/-- A stored kind of record. Slots follow the order of the properties. -/
structure ModelEntity where
  id : UInt32
  uid : UInt64
  name : String
  properties : Array ModelProperty
  lastPropertyId : Option IdUid
  deriving DecidableEq, Repr, Inhabited

namespace ModelEntity

def property? (e : ModelEntity) (id : UInt32) : Option ModelProperty :=
  e.properties.find? (·.id == id)

def propertyNamed? (e : ModelEntity) (name : String) : Option ModelProperty :=
  e.properties.find? (·.name == name)

def identifier? (e : ModelEntity) : Option ModelProperty :=
  e.properties.find? ModelProperty.isIdentifier

def slotOffset? (e : ModelEntity) (id : UInt32) : Except Overflow (Option UInt16) :=
  match e.properties.findIdx? (·.id == id) with
  | none => .ok none
  | some index =>
    if index < UInt16.size then (Buffer.slotOffset (UInt16.ofNat index)).map some else .ok none

end ModelEntity

/-- The entities of a store, with the highest entity id ever given. -/
structure Model where
  entities : Array ModelEntity
  lastEntityId : Option IdUid
  deriving DecidableEq, Repr, Inhabited

namespace Model

def empty : Model := ⟨#[], none⟩

def entity? (m : Model) (id : UInt32) : Option ModelEntity := m.entities.find? (·.id == id)

def entityNamed? (m : Model) (name : String) : Option ModelEntity :=
  m.entities.find? (·.name == name)

end Model

end RecordStore

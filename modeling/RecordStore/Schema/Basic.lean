import RecordStore.IdUid
import RecordStore.PropertyFlags
import RecordStore.Schema.SemanticType
import RecordStore.Text.Words

/-! Schemas: entities with their properties, in the order that fixes how records are laid out. -/
namespace RecordStore

/-- One field of an entity. -/
structure Property where
  id : UInt32
  uid : UInt64
  /-- Name of the field in the record. -/
  name : String
  /-- Name under which the store knows the property. -/
  storeName : String
  storeType : PropertyType
  flags : PropertyFlags
  type : SemanticType
  placement : Placement
  /-- Place among the slots of the table, assigned when an entity takes the property. -/
  slot : UInt16
  deriving DecidableEq, Repr, Inhabited

namespace Property

/-- A property with everything else derived from its name and type. -/
def ofType (id : IdUid) (name : String) (type : SemanticType) : Property where
  id := id.id
  uid := id.uid
  name := name
  storeName := Text.Words.lowerCamel name
  storeType := type.storeType
  flags := if type.isUnsigned then .unsigned else .none
  type := type
  placement := type.placement
  slot := 0

def withStoreName (p : Property) (storeName : String) : Property :=
  { p with storeName := storeName }

def withStoreType (p : Property) (storeType : PropertyType) : Property :=
  { p with storeType := storeType }

def withPlacement (p : Property) (placement : Placement) : Property :=
  { p with placement := placement }

def withFlags (p : Property) (flags : PropertyFlags) : Property :=
  { p with flags := p.flags.union flags }

def idUid (p : Property) : IdUid := ⟨p.id, p.uid⟩

def isIdentifier (p : Property) : Bool := p.flags.contains .identifier

/-- Where the table directory describes the slot, `4 + 2 * slot` kept within 16 bits. -/
def directoryOffset (p : Property) : UInt16 :=
  UInt16.ofNat (min (4 + min (2 * p.slot.toNat) 65535) 65535)

end Property

/-- A kind of record. -/
structure Entity where
  id : UInt32
  uid : UInt64
  name : String
  properties : Array Property
  /-- Index of the identifier among the properties. -/
  identifier : Option Nat
  lastPropertyId : IdUid
  deriving DecidableEq, Repr, Inhabited

namespace Entity

def ofName (id : IdUid) (name : String) (lastPropertyId : IdUid) : Entity :=
  ⟨id.id, id.uid, name, #[], none, lastPropertyId⟩

/-- Takes a property into the next slot. The first one flagged becomes the identifier. -/
def push (e : Entity) (p : Property) : Entity :=
  let index := e.properties.size
  { e with
    properties := e.properties.push { p with slot := UInt16.ofNat (min index 65535) }
    identifier :=
      if p.isIdentifier && e.identifier.isNone then some index else e.identifier }

/-- Without a flagged property, makes the first one named `id` the identifier. -/
def resolveIdentifier (e : Entity) : Entity :=
  if e.identifier.isSome then e
  else
    match e.properties.findIdx? (·.name == "id") with
    | none => e
    | some i =>
      { e with
        properties := e.properties.modify i (·.withFlags .identifier)
        identifier := some i }

def idUid (e : Entity) : IdUid := ⟨e.id, e.uid⟩

def identifierProperty? (e : Entity) : Option Property := do e.properties[← e.identifier]?

def property? (e : Entity) (name : String) : Option Property :=
  e.properties.find? (·.name == name)

/-- Whether anything besides the identifier is stored. -/
def storesMore (e : Entity) : Bool := e.properties.any (!·.isIdentifier)

def slotCount (e : Entity) : UInt32 := e.lastPropertyId.id

end Entity

/-- The entities of one model, with the highest entity id ever given. -/
structure Schema where
  entities : Array Entity
  lastEntityId : IdUid
  deriving DecidableEq, Repr, Inhabited

namespace Schema

def empty (lastEntityId : IdUid) : Schema := ⟨#[], lastEntityId⟩

def push (s : Schema) (e : Entity) : Schema := { s with entities := s.entities.push e }

def entity? (s : Schema) (name : String) : Option Entity := s.entities.find? (·.name == name)

end Schema

end RecordStore

import RecordStore.Model.Basic
import RecordStore.Model.Error

/-! Models built call by call. Each call applies to the entity and property added last. -/
namespace RecordStore

/-- A step towards a model. -/
inductive ModelCall
  | entity (name : String) (id : UInt32) (uid : UInt64)
  | property (name : String) (type : PropertyType) (id : UInt32) (uid : UInt64)
  | flags (flags : PropertyFlags)
  | lastPropertyId (id : IdUid)
  | lastEntityId (id : IdUid)
  deriving DecidableEq, Repr

/-- A model under construction. -/
structure ModelBuilder where
  entities : Array ModelEntity
  lastEntityId : Option IdUid
  deriving DecidableEq, Repr

namespace ModelEntity

def addProperty (e : ModelEntity) (name : String) (type : PropertyType) (id : UInt32)
    (uid : UInt64) : Except ModelError ModelEntity :=
  if id == 0 || uid == 0 then .error (.invalidPropertyId e.name name)
  else if (e.property? id).isSome then .error (.duplicateProperty e.name id)
  else .ok { e with properties := e.properties.push ⟨id, uid, name, type, .none⟩ }

def addFlags (e : ModelEntity) (flags : PropertyFlags) : Except ModelError ModelEntity :=
  if e.properties.isEmpty then .error (.noProperty .flags)
  else
    .ok { e with
      properties := e.properties.modify (e.properties.size - 1) fun p =>
        { p with flags := p.flags.union flags } }

def identifierFault? (e : ModelEntity) : Option IdentifierFault :=
  match e.properties.toList.filter ModelProperty.isIdentifier with
  | [] => some .missing
  | [p] => if p.type == .long then none else some .notLong
  | _ => some .repeated

def check (e : ModelEntity) : Except ModelError Unit :=
  match e.lastPropertyId with
  | none => .error (.missingLastPropertyId e.name)
  | some last =>
    match e.properties.find? (last.id < ·.id) with
    | some p => .error (.propertyIdAboveLast e.name p.id last.id)
    | none =>
      match e.identifierFault? with
      | some fault => .error (.identifier e.name fault)
      | none => .ok ()

end ModelEntity

namespace ModelBuilder

def empty : ModelBuilder := ⟨#[], none⟩

instance : Inhabited ModelBuilder := ⟨empty⟩

def onLast (operation : ModelOperation) (f : ModelEntity → Except ModelError ModelEntity)
    (b : ModelBuilder) : Except ModelError ModelBuilder :=
  match b.entities.back? with
  | none => .error (.noEntity operation)
  | some e => do return { b with entities := b.entities.pop.push (← f e) }

def addEntity (name : String) (id : UInt32) (uid : UInt64) (b : ModelBuilder) :
    Except ModelError ModelBuilder :=
  if id == 0 || uid == 0 then .error (.invalidEntityId name)
  else if b.entities.any (·.id == id) then .error (.duplicateEntity id)
  else .ok { b with entities := b.entities.push ⟨id, uid, name, #[], none⟩ }

def apply (b : ModelBuilder) : ModelCall → Except ModelError ModelBuilder
  | .entity name id uid => b.addEntity name id uid
  | .property name type id uid => b.onLast .property (·.addProperty name type id uid)
  | .flags flags => b.onLast .flags (·.addFlags flags)
  | .lastPropertyId id => b.onLast .lastPropertyId fun e => .ok { e with lastPropertyId := some id }
  | .lastEntityId id => .ok { b with lastEntityId := some id }

/-- Makes calls up to the first that fails, and keeps what they did. -/
def applyAll (b : ModelBuilder) : List ModelCall → Except ModelError Unit × ModelBuilder
  | [] => (.ok (), b)
  | call :: calls =>
    match b.apply call with
    | .ok b => b.applyAll calls
    | .error e => (.error e, b)

def checkEntity (b : ModelBuilder) (e : ModelEntity) : Except ModelError Unit := do
  e.check
  match b.lastEntityId with
  | some last => if last.id < e.id then throw (.entityIdAboveLast e.id last.id)
  | none => pure ()

def build (b : ModelBuilder) : Except ModelError Model := do
  if b.entities.isEmpty then throw .noEntities
  b.entities.toList.forM b.checkEntity
  return ⟨b.entities, b.lastEntityId⟩

end ModelBuilder

end RecordStore

import RecordStore.Model.Builder

/-! Calls that change a model builder in place: what a call changed before it failed stays
changed. -/
namespace RecordStore

/-- Changes to a model builder, up to an error. -/
abbrev ModelEdit := EStateM ModelError ModelBuilder

namespace ModelEdit

def addEntity (name : String) (id : UInt32) (uid : UInt64) : ModelEdit Unit := do
  if id == 0 || uid == 0 then throw (.invalidEntityId name)
  if (← get).entities.any (·.id == id) then throw (.duplicateEntity id)
  modify fun b => { b with entities := b.entities.push ⟨id, uid, name, #[], none⟩ }

/-- The entity added last, which an operation applies to. -/
def current (operation : ModelOperation) : ModelEdit ModelEntity := do
  match (← get).entities.back? with
  | none => throw (.noEntity operation)
  | some e => return e

def setCurrent (e : ModelEntity) : ModelEdit Unit :=
  modify fun b => { b with entities := b.entities.pop.push e }

def addProperty (name : String) (type : PropertyType) (id : UInt32) (uid : UInt64) :
    ModelEdit Unit := do
  let e ← current .property
  if id == 0 || uid == 0 then throw (.invalidPropertyId e.name name)
  if (e.property? id).isSome then throw (.duplicateProperty e.name id)
  setCurrent { e with properties := e.properties.push ⟨id, uid, name, type, .none⟩ }

/-- Adds flags to the property added last. -/
def addFlags (flags : PropertyFlags) : ModelEdit Unit := do
  let e ← current .flags
  match e.properties.back? with
  | none => throw (.noProperty .flags)
  | some p =>
    setCurrent { e with
      properties := e.properties.pop.push { p with flags := p.flags.union flags } }

def setLastPropertyId (id : IdUid) : ModelEdit Unit := do
  let e ← current .lastPropertyId
  setCurrent { e with lastPropertyId := some id }

def setLastEntityId (id : IdUid) : ModelEdit Unit := modify ({ · with lastEntityId := some id })

end ModelEdit

def ModelCall.edit : ModelCall → ModelEdit Unit
  | entity name id uid => ModelEdit.addEntity name id uid
  | property name type id uid => ModelEdit.addProperty name type id uid
  | flags added => ModelEdit.addFlags added
  | lastPropertyId id => ModelEdit.setLastPropertyId id
  | lastEntityId id => ModelEdit.setLastEntityId id

namespace ModelBuilder

/-- What changes come to, and the builder that they leave behind. -/
def perform (b : ModelBuilder) (edit : ModelEdit Unit) : Except ModelError Unit × ModelBuilder :=
  match edit.run b with
  | .ok _ b => (.ok (), b)
  | .error e b => (.error e, b)

def reply (b : ModelBuilder) (call : ModelCall) : Except ModelError Unit := (b.perform call.edit).1

def next (b : ModelBuilder) (call : ModelCall) : ModelBuilder := (b.perform call.edit).2

/-- The builder that calls leave behind, whether they succeed or not. -/
def after (b : ModelBuilder) (calls : List ModelCall) : ModelBuilder := calls.foldl next b

/-- Makes calls up to the first that fails. -/
def performAll (b : ModelBuilder) (calls : List ModelCall) :
    Except ModelError Unit × ModelBuilder :=
  b.perform (calls.forM ModelCall.edit)

end ModelBuilder

end RecordStore

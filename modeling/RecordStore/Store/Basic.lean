import RecordStore.Binding.Basic
import RecordStore.Engine.Storage
import RecordStore.Store.Error

/-! Stores: an opened engine together with its model. -/
namespace RecordStore

/-- What is known of an opened engine. -/
structure Store where
  model : Model
  /-- Whether cursors are logged. -/
  debug : Bool
  deriving DecidableEq, Repr

/-- An entity of a store whose records can be put and got. -/
structure Box where
  store : Store
  binding : Binding

namespace CursorProgram

variable {α : Type}

def request (c : CursorCall) (next : c.Reply → CursorProgram StoreError α) :
    CursorProgram StoreError α :=
  .call c fun
    | .ok reply => next reply
    | .error e => .done (.error (.engine e))

def answer (c : CursorCall) : CursorProgram StoreError c.Reply := request c fun r => .done (.ok r)

end CursorProgram

namespace Storage

variable {σ α : Type}

def runCursor (s : Storage σ) (entityId : UInt32) (write : Bool)
    (program : CursorProgram StoreError α) (state : σ) : StoreAttempt α × σ :=
  match s.withCursor entityId write program state with
  | (.ok result, state) => (.ofExcept result, state)
  | (.error e, state) => (.error (e.map .engine), state)

/-- Opens an engine with a model; without one there is nothing to open. -/
def openStore (s : Storage σ) (model : Option Model) (debug : Bool) (state : σ) :
    Except StoreError Store × σ :=
  match model with
  | none => (.error (.model .noEntities), state)
  | some model =>
    match s.openWith model state with
    | (.ok _, state) => (.ok ⟨model, debug⟩, state)
    | (.error e, state) => (.error (.engine e), state)

end Storage

namespace Store

def debugText (s : Store) : String :=
  s!"Store \x7b entities: {s.model.entities.size}, debug: {s.debug}, .. \x7d"

/-- The box of a binding whose entity is in the model. -/
def box (s : Store) (b : Binding) : Except StoreError Box :=
  if (s.model.entity? b.entity.id).isSome then .ok ⟨s, b⟩ else .error (.unknownEntity b.entity.id)

end Store

namespace Box

def debugText (b : Box) : String :=
  s!"EntityBox \x7b entity: {Text.Quoted.display b.binding.entity.name}, " ++
    s!"store: {b.store.debugText}, .. \x7d"

end Box

end RecordStore

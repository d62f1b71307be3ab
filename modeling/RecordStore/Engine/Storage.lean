import RecordStore.Engine.Cursor

/-! What stores demand of an engine, whose state is of any type. Every call may fail. -/
namespace RecordStore

/-- The calls that an engine answers. -/
structure Storage (σ : Type) where
  /-- Takes the model, before any other call. -/
  openWith : Model → σ → Except EngineError Unit × σ
  /-- Runs a program on a cursor over an entity, for writing or only for reading. What the program
  changes is kept only if its outcome is no error. -/
  withCursor : {ε α : Type} → UInt32 → Bool → CursorProgram ε α → σ →
    EngineAttempt (Except ε α) × σ
  /-- Compiles conditions on an entity to a query, and gives its handle. -/
  createQuery : UInt32 → List Condition → σ → EngineAttempt UInt64 × σ
  closeQuery : UInt64 → σ → Except EngineError Unit × σ
  describeQuery : UInt64 → σ → Except EngineError String × σ
  /-- Replaces the values of a condition on a property of an entity. -/
  bindParameter : UInt64 → PropertyKey → Parameter → σ → Except EngineError Unit × σ

/-- The state of an engine under observation. -/
structure Observed (σ : Type) where
  inner : σ
  /-- Calls made so far; the opening does not count. -/
  calls : Nat
  /-- Closing a query reports a failure, although it is done. -/
  failsClose : Bool

namespace Observed

variable {σ : Type}

/-- A state that nothing has been asked of. -/
def start (inner : σ) : Observed σ := ⟨inner, 0, false⟩

def counted {ρ : Type} (f : σ → ρ × σ) (o : Observed σ) : ρ × Observed σ :=
  let (reply, inner) := f o.inner
  (reply, { o with inner := inner, calls := o.calls + 1 })

def closeFailure : EngineError := .other EngineError.illegalState "close failed"

end Observed

namespace Storage

variable {σ : Type}

def observed (s : Storage σ) : Storage (Observed σ) where
  openWith model o :=
    let (reply, inner) := s.openWith model o.inner
    (reply, { o with inner := inner })
  withCursor entityId write program := Observed.counted (s.withCursor entityId write program)
  createQuery entityId conditions := Observed.counted (s.createQuery entityId conditions)
  closeQuery handle o :=
    let (reply, o) := Observed.counted (s.closeQuery handle) o
    (if o.failsClose then reply.bind fun _ => .error Observed.closeFailure else reply, o)
  describeQuery handle := Observed.counted (s.describeQuery handle)
  bindParameter handle key value := Observed.counted (s.bindParameter handle key value)

end Storage

end RecordStore

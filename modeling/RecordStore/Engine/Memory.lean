import RecordStore.Engine.Storage

/-! The engine that keeps its rows in memory. -/
namespace RecordStore

/-- The state of the engine. -/
structure MemoryEngine where
  model : Option Model
  /-- The rows of each entity. -/
  tables : Std.ExtTreeMap UInt32 Rows
  queries : QueryTable
  /-- An overflow has ended a program that wrote. -/
  poisoned : Bool

namespace MemoryEngine

/-- The engine before it is opened. -/
def new : MemoryEngine := ⟨none, ∅, .empty, false⟩

instance : Inhabited MemoryEngine := ⟨new⟩

/-- Refuses calls that need the rows after an overflow. -/
def demandSound (m : MemoryEngine) : Except EngineError Unit :=
  if m.poisoned then .error .poisoned else .ok ()

def entity (m : MemoryEngine) (id : UInt32) : Except EngineError ModelEntity :=
  match m.model with
  | none => .error .notOpen
  | some model =>
    match model.entity? id with
    | some e => .ok e
    | none => .error (.unknownEntity id)

def rows (m : MemoryEngine) (id : UInt32) : Rows := m.tables.getD id .empty

def setRows (m : MemoryEngine) (id : UInt32) (r : Rows) : MemoryEngine :=
  { m with tables := m.tables.insert id r }

def openQueryCount (m : MemoryEngine) : Nat := m.queries.size

def openWith (model : Model) (m : MemoryEngine) : Except EngineError Unit × MemoryEngine :=
  match m.demandSound with
  | .error e => (.error e, m)
  | .ok _ =>
    if m.model.isSome then (.error .alreadyOpen, m)
    else
      (.ok (), { m with
        model := some model
        tables := model.entities.foldl (fun tables e => tables.insert e.id .empty) ∅ })

/-- The engine after a program that could write: its changes are undone if its outcome is an
error, and stay where an overflow has ended it. -/
def settle {ε α : Type} (m : MemoryEngine) (id : UInt32) :
    Except Overflow (Except ε α) × Cursor → EngineAttempt (Except ε α) × MemoryEngine
  | (.error o, c) => (.error (.overflow o), { m.setRows id c.rows with poisoned := true })
  | (.ok (.ok a), c) => (.ok (.ok a), m.setRows id c.rows)
  | (.ok (.error e), c) => (.ok (.error e), m.setRows id (c.log.rollback c.rows))

def withCursor {ε α : Type} (id : UInt32) (write : Bool) (program : CursorProgram ε α)
    (m : MemoryEngine) : EngineAttempt (Except ε α) × MemoryEngine :=
  match m.demandSound >>= fun _ => m.entity id with
  | .error e => (.error (.error e), m)
  | .ok e =>
    let outcome := program.run (Cursor.start e m.queries write (m.rows id))
    if write then m.settle id outcome else (outcome.1.mapError .overflow, m)

def createQuery (id : UInt32) (conditions : List Condition) (m : MemoryEngine) :
    EngineAttempt UInt64 × MemoryEngine :=
  let checked : EngineAttempt Unit := do
    let e ← .ofExcept (m.demandSound >>= fun _ => m.entity id)
    conditions.forM e.accept
  match checked with
  | .error e => (.error e, m)
  | .ok _ =>
    let (reply, queries) := m.queries.issue ⟨id, conditions⟩
    (reply, { m with queries := queries })

def closeQuery (handle : UInt64) (m : MemoryEngine) : Except EngineError Unit × MemoryEngine :=
  match m.queries.compiled handle with
  | .error e => (.error e, m)
  | .ok _ => (.ok (), { m with queries := m.queries.erase handle })

def describeQuery (m : MemoryEngine) (handle : UInt64) : Except EngineError String := do
  let q ← m.queries.compiled handle
  m.demandSound
  let e ← m.entity q.entityId
  return e.describe q.conditions

/-- Replaces the values of the first condition on the property that the parameter fits. -/
def bindParameter (handle : UInt64) (key : PropertyKey) (value : Parameter) (m : MemoryEngine) :
    Except EngineError Unit × MemoryEngine :=
  match m.queries.compiled handle with
  | .error e => (.error e, m)
  | .ok q =>
    if q.entityId ≠ key.entityId then (.error (.queryOfEntity q.entityId key.entityId), m)
    else
      match Condition.rebindFirst? key.propertyId value q.conditions with
      | none => (.error (.unmatchedParameter key.propertyId value), m)
      | some conditions =>
        (.ok (), { m with queries := m.queries.replace handle ⟨q.entityId, conditions⟩ })

def storage : Storage MemoryEngine where
  openWith := openWith
  withCursor := withCursor
  createQuery := createQuery
  closeQuery := closeQuery
  describeQuery handle m := (m.describeQuery handle, m)
  bindParameter := bindParameter

end MemoryEngine

end RecordStore

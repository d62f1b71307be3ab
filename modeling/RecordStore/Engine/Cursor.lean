import RecordStore.Bytes
import RecordStore.Engine.QueryTable

/-! Cursors: access to the rows of one entity for the length of one program. A cursor for writing
keeps a log, by which its changes are undone. -/
namespace RecordStore

/-- The rows of an entity by their ids, and the highest id ever given. -/
structure Rows where
  entries : Std.ExtTreeMap UInt64 ByteArray
  lastId : UInt64

/-- The highest id, behind which no new one can be given. -/
def maxId : UInt64 := 18446744073709551615

namespace Rows

def empty : Rows := ⟨∅, 0⟩

instance : Inhabited Rows := ⟨empty⟩

def buffers (r : Rows) : List ByteArray := r.entries.toList.map (·.2)

end Rows

/-- What a cursor changed: the last id at its start and, newest first, what each changed row held
before. -/
structure UndoLog where
  lastId : UInt64
  prior : List (UInt64 × Option ByteArray)

namespace UndoLog

/-- The log of a cursor that has changed nothing. -/
def start (r : Rows) : UndoLog := ⟨r.lastId, []⟩

def record (log : UndoLog) (id : UInt64) (prior : Option ByteArray) : UndoLog :=
  { log with prior := (id, prior) :: log.prior }

/-- Gives a row what it held before. -/
def restore (entries : Std.ExtTreeMap UInt64 ByteArray) :
    UInt64 × Option ByteArray → Std.ExtTreeMap UInt64 ByteArray
  | (id, some bytes) => entries.insert id bytes
  | (id, none) => entries.erase id

/-- The rows as they were at the start, reached by undoing the changes from the newest on. -/
def rollback (log : UndoLog) (r : Rows) : Rows :=
  ⟨log.prior.foldl restore r.entries, log.lastId⟩

end UndoLog

/-- A call on a cursor. -/
inductive CursorCall
  | get (id : UInt64)
  | getAll
  | idForPut (id : UInt64)
  | put (id : UInt64) (data : ByteArray)
  | remove (id : UInt64)
  | removeAll
  | count
  | queryFind (handle : UInt64) (offset limit : UInt64)
  | queryFindIds (handle : UInt64)
  | queryCount (handle : UInt64)
  | queryRemove (handle : UInt64)
  deriving DecidableEq

/-- What a call answers. -/
abbrev CursorCall.Reply : CursorCall → Type
  | get _ => Option ByteArray
  | getAll | queryFind .. => List ByteArray
  | queryFindIds _ => List UInt64
  | put .. => Unit
  | remove _ => Bool
  | idForPut _ | removeAll | count | queryCount _ | queryRemove _ => UInt64

/-- What a cursor sees: the rows, the log of its own changes, and what stays as it is. -/
structure Cursor where
  entity : ModelEntity
  queries : QueryTable
  writable : Bool
  rows : Rows
  log : UndoLog

namespace Cursor

/-- A cursor that has changed nothing. -/
def start (entity : ModelEntity) (queries : QueryTable) (writable : Bool) (rows : Rows) :
    Cursor :=
  ⟨entity, queries, writable, rows, .start rows⟩

def demandWritable (c : Cursor) : EngineAttempt Unit :=
  if c.writable then .ok () else .error (.error (.readOnly c.entity.name))

/-- The query under a handle, if it is one on the cursor's entity. -/
def query (c : Cursor) (handle : UInt64) : EngineAttempt CompiledQuery :=
  match c.queries.compiled handle with
  | .error e => .error (.error e)
  | .ok q =>
    if q.entityId = c.entity.id then .ok q
    else .error (.error (.cursorOfEntity handle q.entityId c.entity.name))

def selects (c : Cursor) (conditions : List Condition) (row : UInt64 × ByteArray) :
    EngineAttempt Bool := do
  let table ← .ofExcept ((Buffer.Table.root row.2).mapError (.unreadableRecord row.1))
  c.entity.satisfiesAll table conditions

/-- The rows that satisfy a query, in the order of their ids. -/
def matching (c : Cursor) (handle : UInt64) : EngineAttempt (List (UInt64 × ByteArray)) := do
  let q ← c.query handle
  c.rows.entries.toList.filterM (c.selects q.conditions)

/-- The id under which a record will be put; zero asks for a new one. -/
def idForPut (c : Cursor) (id : UInt64) : EngineAttempt UInt64 × Cursor :=
  match c.demandWritable with
  | .error e => (.error e, c)
  | .ok _ =>
    if id = 0 then
      if c.rows.lastId = maxId then (.error (.overflow .addition), c)
      else
        let next := c.rows.lastId + 1
        (.ok next, { c with rows := { c.rows with lastId := next } })
    else (.ok id, { c with rows := { c.rows with lastId := max c.rows.lastId id } })

def put (c : Cursor) (id : UInt64) (data : ByteArray) : EngineAttempt Unit × Cursor :=
  if id = 0 then (.error (.error .idZero), c)
  else
    match c.demandWritable with
    | .error e => (.error e, c)
    | .ok _ =>
      (.ok (), { c with
        rows := ⟨c.rows.entries.insert id data, max c.rows.lastId id⟩
        log := c.log.record id c.rows.entries[id]? })

def discard (c : Cursor) (id : UInt64) : Cursor :=
  match c.rows.entries[id]? with
  | none => c
  | some prior =>
    { c with
      rows := { c.rows with entries := c.rows.entries.erase id }
      log := c.log.record id (some prior) }

def remove (c : Cursor) (id : UInt64) : EngineAttempt Bool × Cursor :=
  match c.demandWritable with
  | .error e => (.error e, c)
  | .ok _ => (.ok (c.rows.entries.contains id), c.discard id)

/-- Removes every row, and tells how many there were. -/
def removeAll (c : Cursor) : EngineAttempt UInt64 × Cursor :=
  match c.demandWritable with
  | .error e => (.error e, c)
  | .ok _ =>
    let entries := c.rows.entries.toList
    (.ok (UInt64.ofNat entries.length), { c with
      rows := { c.rows with entries := ∅ }
      log := entries.foldl (fun log (id, bytes) => log.record id (some bytes)) c.log })

/-- Removes the rows that satisfy a query, and tells how many there were. -/
def queryRemove (c : Cursor) (handle : UInt64) : EngineAttempt UInt64 × Cursor :=
  match c.matching handle with
  | .error e => (.error e, c)
  | .ok found =>
    match c.demandWritable with
    | .error e => (.error e, c)
    | .ok _ => (.ok (UInt64.ofNat found.length), found.foldl (fun c row => c.discard row.1) c)

/-- The part of a list behind `offset` elements and at most `limit` long; zero sets no limit. -/
def page {α : Type} (offset limit : UInt64) (xs : List α) : List α :=
  let rest := xs.drop offset.toNat
  if limit = 0 then rest else rest.take limit.toNat

/-- Makes one call. -/
def step (c : Cursor) : (call : CursorCall) → EngineAttempt call.Reply × Cursor
  | .get id => (.ok c.rows.entries[id]?, c)
  | .getAll => (.ok c.rows.buffers, c)
  | .idForPut id => c.idForPut id
  | .put id data => c.put id data
  | .remove id => c.remove id
  | .removeAll => c.removeAll
  | .count => (.ok (UInt64.ofNat c.rows.entries.size), c)
  | .queryFind handle offset limit =>
    ((c.matching handle).map fun found => page offset limit (found.map (·.2)), c)
  | .queryFindIds handle => ((c.matching handle).map fun found => found.map (·.1), c)
  | .queryCount handle => ((c.matching handle).map fun found => UInt64.ofNat found.length, c)
  | .queryRemove handle => c.queryRemove handle

end Cursor

/-- A program on a cursor: calls that depend on earlier answers, errors among them, and an outcome
in the end. -/
inductive CursorProgram (ε α : Type)
  | done (result : Except ε α)
  | call (request : CursorCall) (next : Except EngineError request.Reply → CursorProgram ε α)

namespace CursorProgram

variable {ε α : Type}

/-- Runs a program up to its outcome or an overflow. -/
def run (c : Cursor) : CursorProgram ε α → Except Overflow (Except ε α) × Cursor
  | done result => (.ok result, c)
  | call request next =>
    match c.step request with
    | (.ok reply, c) => (next (.ok reply)).run c
    | (.error (.error e), c) => (next (.error e)).run c
    | (.error (.overflow o), c) => (.error o, c)

end CursorProgram

end RecordStore

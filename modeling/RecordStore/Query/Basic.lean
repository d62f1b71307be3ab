import RecordStore.Query.Arguments
import RecordStore.Record.Codec
import RecordStore.Store.Basic

/-! Queries: compiled conditions on the records of a binding, open until they are closed. -/
namespace RecordStore

/-- A query. -/
structure Query where
  binding : Binding
  /-- The engine's handle, until the query is closed. -/
  handle : Option UInt64
  /-- Number of records to skip. -/
  offset : UInt64
  /-- Most records to give; zero sets no limit. -/
  limit : UInt64

namespace Query

variable {σ α : Type}

def ofHandle (b : Binding) (handle : UInt64) : Query := ⟨b, some handle, 0, 0⟩

def withOffset (q : Query) (offset : UInt64) : Query := { q with offset := offset }

def withLimit (q : Query) (limit : UInt64) : Query := { q with limit := limit }

def isClosed (q : Query) : Bool := q.handle.isNone

def whileOpen (q : Query) (f : UInt64 → σ → StoreAttempt α × σ) (state : σ) : StoreAttempt α × σ :=
  match q.handle with
  | none => (.error (.error .closed), state)
  | some handle => f handle state

/-- Runs a program on a cursor over the entity. -/
def run (s : Storage σ) (q : Query) (write : Bool) (program : CursorProgram StoreError α) :
    σ → StoreAttempt α × σ :=
  s.runCursor q.binding.entity.id write program

/-- Runs a program for an operation that knows no pages. -/
def runWhole (s : Storage σ) (q : Query) (operation : WholeOperation) (write : Bool)
    (program : CursorProgram StoreError α) (state : σ) : StoreAttempt α × σ :=
  if q.offset = 0 ∧ q.limit = 0 then q.run s write program state
  else (.error (.error (.pagedOperation operation)), state)

def find (s : Storage σ) (q : Query) : σ → StoreAttempt (List (Record q.binding.types)) × σ :=
  q.whileOpen fun handle =>
    q.run s false (.request (.queryFind handle q.offset q.limit) fun buffers =>
      .done ((q.binding.decodeAll buffers).mapError .read))

/-- The part of a list behind `offset` elements and at most `limit` long; zero sets no limit. Where
the part ends is counted in 64 bits, past which it does not move. -/
def paginate {α : Type} (offset limit : UInt64) (xs : List α) : List α :=
  if offset = 0 ∧ limit = 0 then xs
  else
    let start := min offset.toNat xs.length
    let stop :=
      if limit = 0 then xs.length
      else min (min (start + limit.toNat) (UInt64.size - 1)) xs.length
    (xs.take stop).drop start

def findIds (s : Storage σ) (q : Query) (state : σ) : StoreAttempt (List UInt64) × σ :=
  let (ids, state) :=
    q.whileOpen (fun handle => q.run s false (.answer (.queryFindIds handle))) state
  (ids.map (paginate q.offset q.limit), state)

def count (s : Storage σ) (q : Query) : σ → StoreAttempt UInt64 × σ :=
  q.whileOpen fun handle => q.runWhole s .count false (.answer (.queryCount handle))

/-- Removes the selected records, and tells how many there were. -/
def remove (s : Storage σ) (q : Query) : σ → StoreAttempt UInt64 × σ :=
  q.whileOpen fun handle => q.runWhole s .remove true (.answer (.queryRemove handle))

def describe (s : Storage σ) (q : Query) : σ → StoreAttempt String × σ :=
  q.whileOpen fun handle state =>
    let (text, state) := s.describeQuery handle state
    (.ofExcept (text.mapError .engine), state)

/-- Replaces the values of a condition on a property. -/
def setParameter (s : Storage σ) (q : Query) (key : PropertyKey) (arguments : Arguments) :
    σ → StoreAttempt Unit × σ :=
  q.whileOpen fun handle state =>
    match arguments.parameter with
    | .error e => (.error (.error (.arity e)), state)
    | .ok value =>
      let (reply, state) := s.bindParameter handle key value state
      (.ofExcept (reply.mapError .engine), state)

/-- Closes the query, also where the engine fails to; closing again does nothing. -/
def close (s : Storage σ) (q : Query) (state : σ) : (Except StoreError Unit × Query) × σ :=
  match q.handle with
  | none => ((.ok (), q), state)
  | some handle =>
    let (reply, state) := s.closeQuery handle state
    ((reply.mapError .engine, { q with handle := none }), state)

def drop (s : Storage σ) (q : Query) (state : σ) : σ := (q.close s state).2

end Query

end RecordStore

import RecordStore.Query.Basic
import RecordStore.Record.Codec

/-! Boxes: records put, got and removed, each call through one cursor. -/
namespace RecordStore

namespace CursorProgram

variable {α : Type}

/-- Stores a record under its id, or under a new one, and goes on with the id. -/
def putThen (b : Binding) (r : Record b.types) (next : UInt64 → CursorProgram StoreError α) :
    CursorProgram StoreError α :=
  request (.idForPut (b.id r)) fun id =>
    match b.encode r id with
    | .error e => .done (.error (.build e))
    | .ok data => request (.put id data) fun _ => next id

/-- Stores records one after the other and goes on with their ids. -/
def putAllThen (b : Binding) :
    List (Record b.types) → (List UInt64 → CursorProgram StoreError α) → CursorProgram StoreError α
  | [], next => next []
  | r :: rest, next => putThen b r fun id => putAllThen b rest fun ids => next (id :: ids)

end CursorProgram

namespace Box

variable {σ : Type}

/-- The records of the box. -/
abbrev Item (b : Box) : Type := Record b.binding.types

/-- Runs a program on a cursor over the entity. -/
def run {α : Type} (s : Storage σ) (b : Box) (write : Bool)
    (program : CursorProgram StoreError α) : σ → StoreAttempt α × σ :=
  s.runCursor b.binding.entity.id write program

/-- Stores a record, a new one if its id is zero. The record takes the id it is stored under. -/
def put (s : Storage σ) (b : Box) (r : b.Item) (state : σ) :
    (StoreAttempt UInt64 × b.Item) × σ :=
  match b.run s true (CursorProgram.putThen b.binding r fun id => .done (.ok id)) state with
  | (.ok id, state) => ((.ok id, b.binding.setId r id), state)
  | (.error e, state) => ((.error e, r), state)

/-- Stores records through one cursor: all of them, or none if one fails. -/
def putAll (s : Storage σ) (b : Box) (rs : List b.Item) (state : σ) :
    (StoreAttempt (List UInt64) × List b.Item) × σ :=
  match b.run s true (CursorProgram.putAllThen b.binding rs fun ids => .done (.ok ids)) state with
  | (.ok ids, state) => ((.ok ids, List.zipWith b.binding.setId rs ids), state)
  | (.error e, state) => ((.error e, rs), state)

def get (s : Storage σ) (b : Box) (id : UInt64) : σ → StoreAttempt (Option b.Item) × σ :=
  b.run s false (.request (.get id) fun
    | none => .done (.ok none)
    | some bytes => .done (((b.binding.decode bytes).map some).mapError .read))

def getAll (s : Storage σ) (b : Box) : σ → StoreAttempt (List b.Item) × σ :=
  b.run s false (.request .getAll fun buffers =>
    .done ((b.binding.decodeAll buffers).mapError .read))

def contains (s : Storage σ) (b : Box) (id : UInt64) : σ → StoreAttempt Bool × σ :=
  b.run s false (.request (.get id) fun found => .done (.ok found.isSome))

def count (s : Storage σ) (b : Box) : σ → StoreAttempt UInt64 × σ :=
  b.run s false (.answer .count)

/-- Removes the record under an id, and tells whether there was one. -/
def removeId (s : Storage σ) (b : Box) (id : UInt64) : σ → StoreAttempt Bool × σ :=
  b.run s true (.answer (.remove id))

def remove (s : Storage σ) (b : Box) (r : b.Item) : σ → StoreAttempt Bool × σ :=
  b.removeId s (b.binding.id r)

/-- Removes every record, and tells how many there were. -/
def removeAll (s : Storage σ) (b : Box) : σ → StoreAttempt UInt64 × σ :=
  b.run s true (.answer .removeAll)

/-- Compiles conditions, all of which have to hold, to a query. -/
def query (s : Storage σ) (b : Box) (conditions : List Condition) (state : σ) :
    StoreAttempt Query × σ :=
  match s.createQuery b.binding.entity.id conditions state with
  | (.ok handle, state) => (.ok (.ofHandle b.binding handle), state)
  | (.error e, state) => (.error (e.map .engine), state)

end Box

end RecordStore

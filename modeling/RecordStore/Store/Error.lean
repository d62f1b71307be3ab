import RecordStore.Engine.Error
import RecordStore.Model.Error
import RecordStore.Overflow

/-! What goes wrong in stores, boxes and queries. -/
namespace RecordStore

/-- Why a number of values does not suit a parameter. -/
inductive ArityError
  | noValues
  | tooManyValues (given most : Nat)
  deriving DecidableEq, Repr

namespace ArityError

def message : ArityError → String
  | noValues => "no values given"
  | tooManyValues .. => "too many values given"

/-- Accepts one value or more, up to a bound if there is one. -/
def check (given : Nat) (most : Option Nat) : Except ArityError Unit :=
  if given = 0 then .error .noValues
  else
    match most with
    | some most => if most < given then .error (.tooManyValues given most) else .ok ()
    | none => .ok ()

end ArityError

/-- An operation of queries that knows no pages. -/
inductive WholeOperation
  | count
  | remove
  deriving DecidableEq, Repr

def WholeOperation.name : WholeOperation → String
  | count => "count"
  | remove => "remove"

/-- Why a store, a box or a query refuses a call. -/
inductive StoreError
  | build (cause : Buffer.BuildError)
  | closed
  | read (cause : Buffer.ReadError)
  | model (cause : ModelError)
  | engine (cause : EngineError)
  | arity (cause : ArityError)
  | unknownEntity (id : UInt32)
  | pagedOperation (operation : WholeOperation)
  deriving DecidableEq

namespace StoreError

def message : StoreError → String
  | build cause => cause.message
  | closed => "illegal state; query was closed"
  | read cause => cause.message
  | model cause => cause.message
  | engine cause => cause.message
  | arity cause => cause.message
  | unknownEntity id => s!"entity type {id.toNat} is not part of the store model"
  | pagedOperation operation =>
    s!"limit/offset are not supported by {operation.name} at this moment"

end StoreError

/-- The outcome of a call on a store, a box or a query. -/
abbrev StoreAttempt := Attempt StoreError

end RecordStore

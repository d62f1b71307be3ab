import RecordStore.Engine.Matching
import Std.Data.ExtTreeMap

/-! The compiled queries of an engine, and the handles that they are called by. -/
namespace RecordStore

/-- A query as the engine keeps it. -/
structure CompiledQuery where
  entityId : UInt32
  conditions : List Condition
  deriving DecidableEq

/-- The queries that are not closed, by their handles. -/
abbrev OpenQueries := Std.ExtTreeMap UInt64 CompiledQuery

/-- The highest handle, behind which no new one can be given. -/
def maxHandle : UInt64 := 18446744073709551615

/-- The table of the queries. -/
structure QueryTable where
  /-- Handles given so far; they count from one. -/
  issued : UInt64
  opened : OpenQueries
  /-- An overflow has ended a call that was about to change the table. -/
  poisoned : Bool

namespace QueryTable

/-- The table before any query. -/
def empty : QueryTable := ⟨0, ∅, false⟩

/-- The number of queries that are not closed; none can be seen after an overflow. -/
def size (t : QueryTable) : Nat := if t.poisoned then 0 else t.opened.size

def compiled (t : QueryTable) (handle : UInt64) : Except EngineError CompiledQuery :=
  if t.poisoned then .error .queriesPoisoned
  else
    match t.opened[handle]? with
    | some q => .ok q
    | none => .error (.unknownQuery handle)

/-- The table with one more query, under the next handle. -/
def keep (t : QueryTable) (q : CompiledQuery) : QueryTable :=
  { t with issued := t.issued + 1, opened := t.opened.insert (t.issued + 1) q }

def replace (t : QueryTable) (handle : UInt64) (q : CompiledQuery) : QueryTable :=
  { t with opened := t.opened.insert handle q }

def erase (t : QueryTable) (handle : UInt64) : QueryTable :=
  { t with opened := t.opened.erase handle }

/-- Takes a query and gives its handle. Counting past the highest handle overflows, and zero is no
handle. -/
def issue (t : QueryTable) (q : CompiledQuery) : EngineAttempt UInt64 × QueryTable :=
  if t.poisoned then (.error (.error .queriesPoisoned), t)
  else if t.issued = maxHandle then (.error (.overflow .addition), { t with poisoned := true })
  else if t.issued + 1 = 0 then
    (.error (.error .handlesExhausted), { t with issued := t.issued + 1 })
  else (.ok (t.issued + 1), t.keep q)

end QueryTable

end RecordStore

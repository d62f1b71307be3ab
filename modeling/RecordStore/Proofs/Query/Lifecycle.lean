import RecordStore.Proofs.Store.Handles
import RecordStore.Proofs.Store.Refinement

/-! Queries from their opening to their end, over an engine that may answer anything: which calls
reach the engine, and which are refused before they do. -/
namespace RecordStore

/-- A call that reaches the engine of a store that is open. -/
inductive EngineCall
  | withCursor (entityId : UInt32) (write : Bool)
  | createQuery (entityId : UInt32) (conditions : List Condition)
  | closeQuery (handle : UInt64)
  | describeQuery (handle : UInt64)
  | bindParameter (handle : UInt64) (key : PropertyKey) (value : Parameter)
  deriving DecidableEq

/-- The handle that a call closes. -/
def EngineCall.closed? : EngineCall → Option UInt64
  | closeQuery handle => some handle
  | _ => none

/-- The state of an engine, and the calls that have reached it. -/
structure Traced (σ : Type) where
  inner : σ
  calls : List EngineCall

namespace Traced

variable {σ : Type}

/-- The handles that were closed, in order. -/
def closed (t : Traced σ) : List UInt64 := t.calls.filterMap EngineCall.closed?

def log {ρ : Type} (call : EngineCall) (f : σ → ρ × σ) (t : Traced σ) : ρ × Traced σ :=
  let (reply, inner) := f t.inner
  (reply, ⟨inner, t.calls ++ [call]⟩)

end Traced

/-- How a call answers that is refused; the options of a query are set and closing is done in any
case. -/
def QueryCall.refusal (types : List FieldType) (e : StoreError) :
    (call : QueryCall) → call.Reply types
  | .offset _ | .limit _ => ()
  | .find => .error (.error e)
  | .findIds => .error (.error e)
  | .count | .remove => .error (.error e)
  | .describe => .error (.error e)
  | .setParameter .. => .error (.error e)
  | .close => .ok ()

namespace Query

variable {σ : Type} {s : Storage σ} {q : Query} {t : Traced σ}

/-- Makes calls in order. -/
def performAll (s : Storage σ) : Query → σ → List QueryCall → Query × σ
  | q, state, [] => (q, state)
  | q, state, call :: rest =>
    performAll s (q.perform s state call).1.2 (q.perform s state call).2 rest

/-- A closed query refuses every call, and none of them reaches the engine. -/
theorem perform_of_closed (hq : q.handle = none) (s : Storage σ) (state : σ) (call : QueryCall) :
    (q.perform s state call).1.1 = call.refusal _ .closed ∧
      (q.perform s state call).1.2.handle = none ∧ (q.perform s state call).2 = state := by
  have hw {α : Type} (f : UInt64 → σ → StoreAttempt α × σ) :
      q.whileOpen f state = (.error (.error .closed), state) := by
    rw [whileOpen, hq]
  have hclose : q.close s state = ((.ok (), q), state) := by
    rw [close, hq]
  cases call with
  | offset n => exact ⟨rfl, hq, rfl⟩
  | limit n => exact ⟨rfl, hq, rfl⟩
  | find => simp only [perform, find, hw, QueryCall.refusal, hq, and_self]
  | findIds => simp only [perform, findIds, hw, Except.map, QueryCall.refusal, hq, and_self]
  | count => simp only [perform, count, hw, QueryCall.refusal, hq, and_self]
  | remove => simp only [perform, remove, hw, QueryCall.refusal, hq, and_self]
  | describe => simp only [perform, describe, hw, QueryCall.refusal, hq, and_self]
  | setParameter key arguments =>
    simp only [perform, setParameter, hw, QueryCall.refusal, hq, and_self]
  | close => simp only [perform, hclose, QueryCall.refusal, hq, and_self]

theorem count_of_paged {handle : UInt64} (hq : q.handle = some handle) (s : Storage σ) (state : σ)
    (hp : q.offset ≠ 0 ∨ q.limit ≠ 0) :
    q.count s state = (.error (.error (.pagedOperation .count)), state) ∧
      q.remove s state = (.error (.error (.pagedOperation .remove)), state) := by
  have hz : ¬ (q.offset = 0 ∧ q.limit = 0) := by
    rintro ⟨ho, hl⟩
    exact hp.elim (fun h => h ho) fun h => h hl
  rw [count, remove, whileOpen, whileOpen, hq]
  simp only [runWhole, if_neg hz, and_self]

end Query

/-- An overflow of the handles takes as many calls that open a query as there are handles, and one
more. -/
theorem Client.size_le_of_poisoned (model : Model) (store : Store) (calls : List ClientCall) :
    (run store ⟨.opened model, []⟩ calls).engine.queries.poisoned = true →
      UInt64.size ≤ calls.countP (·.requests) := by
  have hwithin := within_run store (c := ⟨.opened model, []⟩) QueryTable.within_empty calls
  rw [Nat.zero_add] at hwithin
  exact hwithin.size_le

end RecordStore

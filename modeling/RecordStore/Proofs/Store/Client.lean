import Mathlib.Data.List.Nodup
import RecordStore.Proofs.Engine.History
import RecordStore.Proofs.Store.Shelf

/-! Whoever uses a store: through its boxes, and through queries that are held until they are
dropped. -/
namespace RecordStore

/-- A call on a query. -/
inductive QueryCall
  | offset (n : UInt64)
  | limit (n : UInt64)
  | find
  | findIds
  | count
  | remove
  | describe
  | setParameter (key : PropertyKey) (arguments : Arguments)
  | close
  deriving DecidableEq

/-- What a call answers. -/
abbrev QueryCall.Reply (types : List FieldType) : QueryCall → Type
  | offset _ | limit _ => Unit
  | find => StoreAttempt (List (Record types))
  | findIds => StoreAttempt (List UInt64)
  | count | remove => StoreAttempt UInt64
  | describe => StoreAttempt String
  | setParameter .. => StoreAttempt Unit
  | close => Except StoreError Unit

/-- Makes a call on a query. -/
def Query.perform {σ : Type} (s : Storage σ) (q : Query) (state : σ) :
    (call : QueryCall) → (call.Reply q.binding.types × Query) × σ
  | .offset n => (((), q.withOffset n), state)
  | .limit n => (((), q.withLimit n), state)
  | .find => let (reply, state) := q.find s state; ((reply, q), state)
  | .findIds => let (reply, state) := q.findIds s state; ((reply, q), state)
  | .count => let (reply, state) := q.count s state; ((reply, q), state)
  | .remove => let (reply, state) := q.remove s state; ((reply, q), state)
  | .describe => let (reply, state) := q.describe s state; ((reply, q), state)
  | .setParameter key arguments =>
    let (reply, state) := q.setParameter s key arguments state
    ((reply, q), state)
  | .close => q.close s state

theorem Query.handle_close {σ : Type} (s : Storage σ) (q : Query) (state : σ) :
    (q.close s state).1.2.handle = none := by
  rw [close]
  cases hq : q.handle with
  | none => exact hq
  | some n => rfl

theorem Query.binding_close {σ : Type} (s : Storage σ) (q : Query) (state : σ) :
    (q.close s state).1.2.binding = q.binding := by
  rw [close]
  cases q.handle <;> rfl

/-- A query that was opened, with the handle that was issued for it; none once it is dropped. -/
structure Held where
  handle : UInt64
  query : Option Query

/-- The query was neither closed nor dropped. -/
def Held.isOpen (h : Held) : Bool := h.query.any fun q => !q.isClosed

/-- A store in use, with every query that was ever opened on it. -/
structure Client where
  engine : MemoryEngine
  held : List Held

/-- What can be done with a store. A query is named by its place among those ever opened. -/
inductive ClientCall
  | box (call : Call)
  | putAll (b : Binding) (rs : List (Record b.types))
  | query (b : Binding) (conditions : List Condition)
  | use (place : Nat) (call : QueryCall)
  | drop (place : Nat)

/-- The call asks for a handle. -/
def ClientCall.requests : ClientCall → Bool
  | query .. => true
  | _ => false

namespace Client

/-- Does something with the query at a place, if there is one that was not dropped. -/
def onQuery (c : Client) (place : Nat) (f : Query → Option Query × MemoryEngine) : Client :=
  match c.held[place]? with
  | some ⟨handle, some q⟩ =>
    let (q, engine) := f q
    ⟨engine, c.held.set place ⟨handle, q⟩⟩
  | _ => c

def step (store : Store) (c : Client) : ClientCall → Client
  | .box call => { c with engine := (store.perform c.engine call).2 }
  | .putAll b rs =>
    { c with engine := (Box.putAll MemoryEngine.storage ⟨store, b⟩ rs c.engine).2 }
  | .query b conditions =>
    match Box.query MemoryEngine.storage ⟨store, b⟩ conditions c.engine with
    | (.ok q, engine) => ⟨engine, c.held ++ (q.handle.map fun h => ⟨h, some q⟩).toList⟩
    | (.error _, engine) => { c with engine := engine }
  | .use place call =>
    c.onQuery place fun q =>
      let ((_, q), engine) := q.perform MemoryEngine.storage c.engine call
      (some q, engine)
  | .drop place => c.onQuery place fun q => (none, q.drop MemoryEngine.storage c.engine)

def run (store : Store) (c : Client) (calls : List ClientCall) : Client :=
  calls.foldl (step store) c

end Client

/-- The engine after a program on a cursor that puts no more than what satisfies `P`. -/
def MemoryEngine.Runs (P : UInt64 → ByteArray → Prop) (id : UInt32) (m m' : MemoryEngine) : Prop :=
  ∃ (α : Type) (p : CursorProgram StoreError α) (write : Bool),
    m' = (m.withCursor id write p).2 ∧ p.Writes P

/-- What the rows of a binding hold: records of it, under ids of their own. -/
def Binding.Stores (b : Binding) (id : UInt64) (bytes : ByteArray) : Prop :=
  id ≠ 0 ∧ ∃ r, b.decode bytes = .ok r

namespace Storage

theorem snd_runCursor {σ α : Type} (s : Storage σ) (id : UInt32) (write : Bool)
    (p : CursorProgram StoreError α) (state : σ) :
    (s.runCursor id write p state).2 = (s.withCursor id write p state).2 := by
  rw [runCursor]
  cases s.withCursor id write p state with
  | mk outcome state' => cases outcome <;> rfl

end Storage

namespace CursorProgram

variable {α : Type} {P : UInt64 → ByteArray → Prop}

theorem writes_request {call : CursorCall} {next : call.Reply → CursorProgram StoreError α}
    (hput : ∀ id data, call = .put id data → id ≠ 0 → P id data)
    (hnext : ∀ reply, (next reply).Writes P) : (request call next).Writes P := by
  refine ⟨hput, ?_⟩
  intro reply
  cases reply with
  | ok reply => exact hnext reply
  | error e => trivial

section

variable {b : Binding} (hP : ∀ r id data, b.encode r id = .ok data → id ≠ 0 → P id data)
include hP

theorem writes_putThen (r : Record b.types) {next : UInt64 → CursorProgram StoreError α}
    (hnext : ∀ id, (next id).Writes P) : (putThen b r next).Writes P := by
  refine writes_request nofun ?_
  intro id
  cases he : b.encode r id with
  | error e => simp only [Writes]
  | ok data =>
    refine writes_request ?_ fun _ => hnext id
    rintro k d ⟨⟩ hne
    exact hP r id data he hne

theorem writes_putAllThen (rs : List (Record b.types))
    {next : List UInt64 → CursorProgram StoreError α} (hnext : ∀ ids, (next ids).Writes P) :
    (putAllThen b rs next).Writes P := by
  induction rs generalizing next with
  | nil => exact hnext []
  | cons r rs ih => exact writes_putThen hP r fun id => ih fun ids => hnext (id :: ids)

end

end CursorProgram

namespace MemoryEngine

variable {P : UInt64 → ByteArray → Prop} {m : MemoryEngine}

theorem runs_runCursor {α : Type} (id : UInt32) (write : Bool) {p : CursorProgram StoreError α}
    (hp : p.Writes P) (m : MemoryEngine) :
    m.Runs P id (storage.runCursor id write p m).2 :=
  ⟨α, p, write, storage.snd_runCursor id write p m, hp⟩

theorem runs_request {α : Type} (id : UInt32) (write : Bool) {call : CursorCall}
    {next : call.Reply → CursorProgram StoreError α}
    (hput : ∀ id data, call = .put id data → id ≠ 0 → P id data)
    (hnext : ∀ reply, (next reply).Writes P) (m : MemoryEngine) :
    m.Runs P id (storage.runCursor id write (.request call next) m).2 :=
  runs_runCursor id write (CursorProgram.writes_request hput hnext) m

section

variable (store : Store) {b : Binding}
  (hP : ∀ r id data, b.encode r id = .ok data → id ≠ 0 → P id data)
include hP

theorem runs_put (r : Record b.types) (m : MemoryEngine) :
    m.Runs P b.entity.id (Box.put storage ⟨store, b⟩ r m).2 := by
  have hwrites : (CursorProgram.putThen b r fun id => .done (.ok id)).Writes P :=
    CursorProgram.writes_putThen hP r fun _ => trivial
  have hruns := runs_runCursor b.entity.id true hwrites m
  rw [Box.put, Box.run]
  revert hruns
  cases storage.runCursor b.entity.id true _ m with
  | mk outcome m' => cases outcome <;> exact id

theorem runs_putAll (rs : List (Record b.types)) (m : MemoryEngine) :
    m.Runs P b.entity.id (Box.putAll storage ⟨store, b⟩ rs m).2 := by
  have hwrites : (CursorProgram.putAllThen b rs fun ids => .done (.ok ids)).Writes P :=
    CursorProgram.writes_putAllThen hP rs fun _ => trivial
  have hruns := runs_runCursor b.entity.id true hwrites m
  rw [Box.putAll, Box.run]
  revert hruns
  cases storage.runCursor b.entity.id true _ m with
  | mk outcome m' => cases outcome <;> exact id

end

/-- Every call on a box is one program. -/
theorem runs_perform (store : Store) {call : Call}
    (hP : ∀ r id data, call.1.encode r id = .ok data → id ≠ 0 → P id data) (m : MemoryEngine) :
    m.Runs P call.1.entity.id (store.perform m call).2 := by
  obtain ⟨b, call⟩ := call
  cases call with
  | put r => exact runs_put store hP r m
  | get id =>
    refine runs_request b.entity.id false nofun ?_ m
    intro found
    cases found <;> trivial
  | remove r => exact runs_request b.entity.id true nofun (by intro _; trivial) m
  | removeId id => exact runs_request b.entity.id true nofun (by intro _; trivial) m
  | removeAll => exact runs_request b.entity.id true nofun (by intro _; trivial) m
  | getAll | contains _ | count =>
    exact runs_request b.entity.id false nofun (by intro _; trivial) m

theorem runs_self (P : UInt64 → ByteArray → Prop) (id : UInt32) (m : MemoryEngine) :
    m.Runs P id m := by
  refine ⟨Unit, .done (.ok ()), false, ?_, trivial⟩
  rw [withCursor]
  cases m.demandSound >>= fun _ => m.entity id <;> rfl

namespace Runs

variable {id : UInt32} {m' : MemoryEngine}

theorem model_eq (h : m.Runs P id m') : m'.model = m.model := by
  obtain ⟨α, p, write, rfl, -⟩ := h
  exact model_withCursor m id write p

theorem queries_eq (h : m.Runs P id m') : m'.queries = m.queries := by
  obtain ⟨α, p, write, rfl, -⟩ := h
  exact queries_withCursor m id write p

end Runs

end MemoryEngine

namespace Query

variable {P : UInt64 → ByteArray → Prop} {m m' : MemoryEngine} {q : Query}

theorem runs_whileOpen {α : Type} {id : UInt32}
    {f : UInt64 → MemoryEngine → StoreAttempt α × MemoryEngine} (hf : ∀ n, m.Runs P id (f n m).2)
    (q : Query) : m.Runs P id (q.whileOpen f m).2 := by
  rw [whileOpen]
  cases q.handle with
  | none => exact MemoryEngine.runs_self P id m
  | some n => exact hf n

theorem runs_runWhole (call : CursorCall)
    (hput : ∀ id data, call = .put id data → id ≠ 0 → P id data) (operation : WholeOperation)
    (write : Bool) (q : Query) (m : MemoryEngine) :
    m.Runs P q.binding.entity.id
      (q.runWhole MemoryEngine.storage operation write (.answer call) m).2 := by
  rw [runWhole]
  by_cases hw : q.offset = 0 ∧ q.limit = 0
  · rw [if_pos hw]
    exact MemoryEngine.runs_request _ write hput (by intro _; trivial) m
  · rw [if_neg hw]
    exact MemoryEngine.runs_self P _ m

/-- A parameter that is set goes to the compiled query and to nothing else. -/
theorem setParameter_cases (q : Query) (key : PropertyKey) (arguments : Arguments)
    (m : MemoryEngine) :
    (q.setParameter MemoryEngine.storage key arguments m).2 = m ∨
      ∃ n compiled conditions, q.handle = some n ∧ m.queries.compiled n = .ok compiled ∧
        Condition.rebindFirst? key.propertyId arguments.value compiled.conditions =
          some conditions ∧
        (q.setParameter MemoryEngine.storage key arguments m).2 =
          { m with queries := m.queries.replace n ⟨compiled.entityId, conditions⟩ } := by
  have hbind : MemoryEngine.storage.bindParameter = MemoryEngine.bindParameter := rfl
  rw [setParameter, whileOpen]
  cases hq : q.handle with
  | none => exact .inl rfl
  | some n =>
    simp only [Arguments.parameter]
    cases ArityError.check arguments.count arguments.most with
    | error e => exact .inl rfl
    | ok _ =>
      simp only [ok_bind, pure_eq_ok, hbind]
      rcases m.bindParameter_cases n key arguments.value with
        ⟨e, hb⟩ | ⟨compiled, conditions, hc, -, hr, hb⟩
      · rw [hb]
        exact .inl rfl
      · rw [hb]
        exact .inr ⟨n, compiled, conditions, rfl, hc, hr, rfl⟩

/-- Closing takes the compiled query from the engine, unless an overflow has hit the queries. -/
theorem snd_close {n : UInt64} (hq : q.handle = some n) (m : MemoryEngine) :
    (q.close MemoryEngine.storage m).2 =
      { m with queries := if m.queries.poisoned then m.queries else m.queries.erase n } := by
  have hclose : MemoryEngine.storage.closeQuery n m = m.closeQuery n := rfl
  rw [close, hq]
  simp only [hclose, MemoryEngine.closeQuery, QueryTable.compiled]
  by_cases hp : m.queries.poisoned = true
  · simp only [if_pos hp]
  · simp only [if_neg hp]
    cases hn : m.queries.opened[n]? with
    | some compiled => rfl
    | none => simp only [QueryTable.erase, Keyed.erase_of_none hn]

/-- A call other than closing leaves the query its handle, and is a program that puts nothing or
sets a parameter. -/
theorem perform_cases (P : UInt64 → ByteArray → Prop) (q : Query) {call : QueryCall}
    (hc : call ≠ .close) (m : MemoryEngine) :
    (q.perform MemoryEngine.storage m call).1.2.handle = q.handle ∧
      (q.perform MemoryEngine.storage m call).1.2.binding = q.binding ∧
      (m.Runs P q.binding.entity.id (q.perform MemoryEngine.storage m call).2 ∨
        ∃ n compiled key value conditions, q.handle = some n ∧ m.queries.compiled n = .ok compiled ∧
          Condition.rebindFirst? key value compiled.conditions = some conditions ∧
          (q.perform MemoryEngine.storage m call).2 =
            { m with queries := m.queries.replace n ⟨compiled.entityId, conditions⟩ }) := by
  cases call with
  | offset n => exact ⟨rfl, rfl, .inl (MemoryEngine.runs_self P _ m)⟩
  | limit n => exact ⟨rfl, rfl, .inl (MemoryEngine.runs_self P _ m)⟩
  | find =>
    refine ⟨rfl, rfl, .inl (runs_whileOpen (fun n => ?_) q)⟩
    exact MemoryEngine.runs_request _ false nofun (by intro _; trivial) m
  | findIds =>
    refine ⟨rfl, rfl, .inl (runs_whileOpen (α := List UInt64) (fun n => ?_) q)⟩
    exact MemoryEngine.runs_request _ false nofun (by intro _; trivial) m
  | count =>
    refine ⟨rfl, rfl, .inl (runs_whileOpen (α := UInt64) (fun n => ?_) q)⟩
    exact runs_runWhole (.queryCount n) nofun .count false q m
  | remove =>
    refine ⟨rfl, rfl, .inl (runs_whileOpen (α := UInt64) (fun n => ?_) q)⟩
    exact runs_runWhole (.queryRemove n) nofun .remove true q m
  | describe =>
    exact ⟨rfl, rfl, .inl (runs_whileOpen (fun n => MemoryEngine.runs_self P _ m) q)⟩
  | setParameter key arguments =>
    refine ⟨rfl, rfl, ?_⟩
    rcases q.setParameter_cases key arguments m with h | ⟨n, compiled, conditions, hq, hm, hr, h⟩
    · left
      have hsame : (q.perform MemoryEngine.storage m (.setParameter key arguments)).2 = m := h
      rw [hsame]
      exact MemoryEngine.runs_self P _ m
    · exact .inr ⟨n, compiled, key.propertyId, arguments.value, conditions, hq, hm, hr, h⟩
  | close => exact absurd rfl hc

end Query

/-- A query that is opened takes the next handle, and the engine keeps its conditions, all of which
it has accepted. Behind the highest handle an overflow hits the queries; one that is refused changes
nothing. -/
theorem Box.query_cases (store : Store) (b : Binding) (conditions : List Condition)
    (m : MemoryEngine) :
    (∃ e, Box.query MemoryEngine.storage ⟨store, b⟩ conditions m = (.error e, m)) ∨
      (m.queries.issued = maxHandle ∧ Box.query MemoryEngine.storage ⟨store, b⟩ conditions m =
        (.error (.overflow .addition), { m with queries := { m.queries with poisoned := true } })) ∨
      ∃ e, m.poisoned = false ∧ m.entity b.entity.id = .ok e ∧
        (∀ c ∈ conditions, e.accept c = .ok ()) ∧
        m.queries.poisoned = false ∧ m.queries.issued ≠ maxHandle ∧
        Box.query MemoryEngine.storage ⟨store, b⟩ conditions m =
          (.ok (.ofHandle b (m.queries.issued + 1)),
            { m with queries := m.queries.keep ⟨b.entity.id, conditions⟩ }) := by
  have hcreate : MemoryEngine.storage.createQuery b.entity.id conditions m =
      m.createQuery b.entity.id conditions := rfl
  simp only [query, hcreate]
  rcases m.createQuery_cases b.entity.id conditions with
    ⟨e, hc⟩ | ⟨hi, hc⟩ | ⟨e, hp, he, ha, hq, hi, hc⟩
  all_goals rw [hc]
  · exact .inl ⟨_, rfl⟩
  · exact .inr (.inl ⟨hi, rfl⟩)
  · exact .inr (.inr ⟨e, hp, he, ha, hq, hi, rfl⟩)

namespace Client

/-- Closing a query can change the compiled queries of the engine, and nothing else. -/
theorem close_cases (q : Query) (m : MemoryEngine) :
    ∃ queries, (q.close MemoryEngine.storage m).2 = { m with queries := queries } ∧
      ∀ n, m.queries.Within n → queries.Within n := by
  cases hq : q.handle with
  | none =>
    refine ⟨m.queries, ?_, fun _ h => h⟩
    rw [Query.close, hq]
  | some n =>
    refine ⟨_, Query.snd_close hq m, fun _ h => ?_⟩
    split
    · exact h
    · exact h.erase n

/-- Whatever is done with a store is one program, or has to do with its queries alone, and asks for
at most one handle. -/
theorem step_cases (store : Store) (c : Client) (call : ClientCall) :
    (∃ id, c.engine.Runs (fun _ _ => True) id (c.step store call).engine) ∨
      ∃ queries, (c.step store call).engine = { c.engine with queries := queries } ∧
        ∀ n, c.engine.queries.Within n →
          queries.Within (n + if call.requests then 1 else 0) := by
  cases call with
  | box call => exact .inl ⟨_, MemoryEngine.runs_perform store (by intros; trivial) c.engine⟩
  | putAll b rs => exact .inl ⟨_, MemoryEngine.runs_putAll store (by intros; trivial) rs c.engine⟩
  | query b conditions =>
    rw [step]
    rcases Box.query_cases store b conditions c.engine with
      ⟨e, hq⟩ | ⟨hi, hq⟩ | ⟨e, -, -, -, hp, hi, hq⟩
    all_goals rw [hq]
    · exact .inr ⟨_, rfl, fun _ h => h.mono (Nat.le_succ _)⟩
    · exact .inr ⟨_, rfl, fun _ h => h.overflow hi⟩
    · exact .inr ⟨_, rfl, fun _ h => h.keep hp hi _⟩
  | use place call =>
    rw [step, onQuery]
    rcases c.held[place]? with - | ⟨handle, - | q⟩
    · exact .inr ⟨_, rfl, fun _ h => h⟩
    · exact .inr ⟨_, rfl, fun _ h => h⟩
    · by_cases hc : call = .close
      · subst hc
        exact .inr (close_cases q c.engine)
      · obtain ⟨-, -, hruns | ⟨n, compiled, key, value, conditions, -, -, -, he⟩⟩ :=
          q.perform_cases (fun _ _ => True) hc c.engine
        · exact .inl ⟨_, hruns⟩
        · exact .inr ⟨_, he, fun _ h => h.replace n _⟩
  | drop place =>
    rw [step, onQuery]
    rcases c.held[place]? with - | ⟨handle, - | q⟩
    · exact .inr ⟨_, rfl, fun _ h => h⟩
    · exact .inr ⟨_, rfl, fun _ h => h⟩
    · exact .inr (close_cases q c.engine)

/-- No run asks for more handles than there are calls that open a query. -/
theorem within_run {n : Nat} (store : Store) {c : Client} (h : c.engine.queries.Within n)
    (calls : List ClientCall) :
    (c.run store calls).engine.queries.Within (n + calls.countP (·.requests)) := by
  induction calls generalizing c n with
  | nil => exact h
  | cons call calls ih =>
    have hstep : (c.step store call).engine.queries.Within
        (n + if call.requests then 1 else 0) := by
      rcases c.step_cases store call with ⟨id, hruns⟩ | ⟨queries, he, hwithin⟩
      · rw [hruns.queries_eq]
        exact h.mono (Nat.le_add_right _ _)
      · rw [he]
        exact hwithin n h
    have hrest := ih hstep
    rwa [Nat.add_assoc, Nat.add_comm (ite _ _ _), ← List.countP_cons] at hrest

end Client

end RecordStore

import Mathlib.Logic.Function.Basic
import RecordStore.Engine.Memory
import RecordStore.Proofs.Keyed
import RecordStore.Proofs.Record.RoundTrip
import RecordStore.Store.Box

/-! What boxes are to those who use them: for each entity a map from ids to records, and the
highest id ever given. -/
namespace RecordStore

/-- A call on a box. -/
inductive BoxCall (types : List FieldType)
  | put (r : Record types)
  | get (id : UInt64)
  | getAll
  | contains (id : UInt64)
  | count
  | remove (r : Record types)
  | removeId (id : UInt64)
  | removeAll

/-- What a call answers; a put also hands the record back. -/
abbrev BoxCall.Reply {types : List FieldType} : BoxCall types → Type
  | put _ => StoreAttempt UInt64 × Record types
  | get _ => StoreAttempt (Option (Record types))
  | getAll => StoreAttempt (List (Record types))
  | contains _ | remove _ | removeId _ => StoreAttempt Bool
  | count | removeAll => StoreAttempt UInt64

/-- A call on the box of a binding. -/
abbrev Call := (b : Binding) × BoxCall b.types

abbrev Answer := (call : Call) × call.2.Reply

/-- The records of an entity by their ids, and the highest id ever given. -/
structure Shelf (types : List FieldType) where
  records : Std.ExtTreeMap UInt64 (Record types)
  counter : UInt64

namespace Shelf

variable {b : Binding}

/-- The id under which a record is put: its own, or a new one as long as there is one. -/
def idFor? {types : List FieldType} (s : Shelf types) (id : UInt64) : Option UInt64 :=
  if id = 0 then if s.counter = maxId then none else some (s.counter + 1) else some id

/-- Puts a record. It takes the id that it is put under, unless it cannot be encoded. -/
def put (s : Shelf b.types) (r : Record b.types) :
    Option ((StoreAttempt UInt64 × Record b.types) × Shelf b.types) :=
  (s.idFor? (b.id r)).map fun id =>
    match b.encode r id with
    | .error e => ((.error (.error (.build e)), r), s)
    | .ok _ =>
      ((.ok id, b.setId r id),
        ⟨s.records.insert id (b.setId r id).normalized, max s.counter id⟩)

def removeId {types : List FieldType} (s : Shelf types) (id : UInt64) :
    StoreAttempt Bool × Shelf types :=
  (.ok (s.records.contains id), { s with records := s.records.erase id })

/-- Answers a call, unless it asks for a new id and there is none. -/
def step (s : Shelf b.types) : (call : BoxCall b.types) → Option (call.Reply × Shelf b.types)
  | .put r => s.put r
  | .get id => some (.ok s.records[id]?, s)
  | .getAll => some (.ok (s.records.toList.map (·.2)), s)
  | .contains id => some (.ok (s.records.contains id), s)
  | .count => some (.ok (UInt64.ofNat s.records.size), s)
  | .remove r => some (s.removeId (b.id r))
  | .removeId id => some (s.removeId id)
  | .removeAll => some (.ok (UInt64.ofNat s.records.size), { s with records := ∅ })

/-- Each record carries the id that it is under, and no zero in it is negative. -/
def Labelled (s : Shelf b.types) : Prop :=
  ∀ id r, s.records[id]? = some r → b.id r = id ∧ r.normalized = r

namespace Labelled

variable {s s' : Shelf b.types}

theorem put (hb : b.WellFormed) (h : s.Labelled) {r : Record b.types}
    {reply : StoreAttempt UInt64 × Record b.types} (hput : s.put r = some (reply, s')) :
    s'.Labelled := by
  obtain ⟨id, -, hput⟩ := Option.map_eq_some_iff.mp hput
  cases henc : b.encode r id with
  | error e =>
    rw [henc] at hput
    cases hput
    exact h
  | ok data =>
    rw [henc] at hput
    cases hput
    intro k stored hk
    rcases Keyed.of_getElem?_insert hk with ⟨rfl, rfl⟩ | hold
    · rw [Binding.id_normalized hb, Binding.id_setId hb, Record.normalized_normalized]
      exact ⟨rfl, rfl⟩
    · exact h k stored hold

theorem removeId (h : s.Labelled) (id : UInt64) : (s.removeId id).2.Labelled := by
  intro k stored hk
  rw [Shelf.removeId] at hk
  exact h k stored (Keyed.of_getElem?_erase hk)

theorem step (hb : b.WellFormed) (h : s.Labelled) {call : BoxCall b.types} {reply : call.Reply}
    (hstep : s.step call = some (reply, s')) : s'.Labelled := by
  cases call with
  | put r => exact h.put hb hstep
  | remove r =>
    cases hstep
    exact h.removeId _
  | removeId id =>
    cases hstep
    exact h.removeId id
  | removeAll =>
    cases hstep
    intro k stored hk
    simp at hk
  | get _ | getAll | contains _ | count =>
    cases hstep
    exact h

end Labelled

end Shelf

/-- A shelf for each binding. -/
abbrev Shelves := (b : Binding) → Shelf b.types

namespace Shelves

def empty : Shelves := fun _ => ⟨∅, 0⟩

/-- Answers a call from the shelf of its binding. -/
def step (s : Shelves) (call : Call) : Option (call.2.Reply × Shelves) :=
  ((s call.1).step call.2).map fun (reply, shelf) => (reply, Function.update s call.1 shelf)

/-- Answers calls in order. -/
def run : Shelves → List Call → Option (List Answer)
  | _, [] => some []
  | s, call :: rest =>
    match s.step call with
    | none => none
    | some (reply, s) => (s.run rest).map (⟨call, reply⟩ :: ·)

/-- What a first call and the calls after it come to. -/
theorem run_cons_eq_some {s : Shelves} {call : Call} {calls : List Call} {answers : List Answer} :
    s.run (call :: calls) = some answers ↔
      ∃ reply shelf rest, (s call.1).step call.2 = some (reply, shelf) ∧
        run (Function.update s call.1 shelf) calls = some rest ∧
          answers = ⟨call, reply⟩ :: rest := by
  rw [run, step]
  cases (s call.1).step call.2 with
  | none => simp
  | some next =>
    obtain ⟨reply, shelf⟩ := next
    simp only [Option.map_some, Option.map_eq_some_iff]
    constructor
    · rintro ⟨rest, hrest, rfl⟩
      exact ⟨reply, shelf, rest, rfl, hrest, rfl⟩
    · rintro ⟨_, _, rest, ⟨⟩, hrest, rfl⟩
      exact ⟨rest, hrest, rfl⟩

/-- Answers to calls on one binding depend on no other calls. -/
theorem run_filter {b : Binding} {s s' : Shelves} {calls : List Call} {answers : List Answer}
    (hs : s' b = s b) (h : s.run calls = some answers) :
    s'.run (calls.filter fun call => call.1 = b) =
      some (answers.filter fun answer => answer.1.1 = b) := by
  -- The two runs agree on the shelf of the binding and on no other.
  induction calls generalizing s s' answers with
  | nil =>
    cases h
    rfl
  | cons call calls ih =>
    obtain ⟨reply, shelf, rest, hstep, hrest, rfl⟩ := run_cons_eq_some.mp h
    by_cases hb : call.1 = b
    · subst hb
      rw [List.filter_cons_of_pos (by simp), List.filter_cons_of_pos (by simp), run_cons_eq_some]
      refine ⟨reply, shelf, _, ?_, ih ?_ hrest, rfl⟩
      · rw [hs]
        exact hstep
      · rw [Function.update_self, Function.update_self]
    · rw [List.filter_cons_of_neg (by simpa using hb),
        List.filter_cons_of_neg (by simpa using hb)]
      refine ih ?_ hrest
      rw [hs, Function.update_of_ne (Ne.symm hb)]

/-- What a get answers carries the id that was asked for. -/
theorem labelled_of_get {b : Binding} (hb : b.WellFormed) {s : Shelves} {calls : List Call}
    {answers : List Answer} (h : s.run calls = some answers) (hs : (s b).Labelled) {id : UInt64}
    {r : Record b.types} (hget : ⟨⟨b, .get id⟩, .ok (some r)⟩ ∈ answers) :
    b.id r = id ∧ r.normalized = r := by
  induction calls generalizing s answers with
  | nil =>
    cases h
    cases hget
  | cons call calls ih =>
    obtain ⟨reply, shelf, rest, hstep, hrest, rfl⟩ := run_cons_eq_some.mp h
    rcases List.mem_cons.mp hget with hfirst | hlater
    · cases hfirst
      have hanswer := congrArg Prod.fst (Option.some.inj hstep)
      exact hs id r (Except.ok.inj hanswer)
    · refine ih hrest ?_ hlater
      by_cases hsame : b = call.1
      · subst hsame
        rw [Function.update_self]
        exact hs.step hb hstep
      · rw [Function.update_of_ne hsame]
        exact hs

end Shelves

namespace Store

/-- Makes a call on the box of a binding. -/
def perform (store : Store) (m : MemoryEngine) : (call : Call) → call.2.Reply × MemoryEngine
  | ⟨b, .put r⟩ => Box.put MemoryEngine.storage ⟨store, b⟩ r m
  | ⟨b, .get id⟩ => Box.get MemoryEngine.storage ⟨store, b⟩ id m
  | ⟨b, .getAll⟩ => Box.getAll MemoryEngine.storage ⟨store, b⟩ m
  | ⟨b, .contains id⟩ => Box.contains MemoryEngine.storage ⟨store, b⟩ id m
  | ⟨b, .count⟩ => Box.count MemoryEngine.storage ⟨store, b⟩ m
  | ⟨b, .remove r⟩ => Box.remove MemoryEngine.storage ⟨store, b⟩ r m
  | ⟨b, .removeId id⟩ => Box.removeId MemoryEngine.storage ⟨store, b⟩ id m
  | ⟨b, .removeAll⟩ => Box.removeAll MemoryEngine.storage ⟨store, b⟩ m

def performAll (store : Store) : MemoryEngine → List Call → List Answer
  | _, [] => []
  | m, call :: rest =>
    let (reply, m) := store.perform m call
    ⟨call, reply⟩ :: store.performAll m rest

end Store

end RecordStore

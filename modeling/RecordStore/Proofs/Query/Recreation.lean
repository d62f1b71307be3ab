import RecordStore.Proofs.Engine.History
import RecordStore.Query.Basic

/-! A query whose values were replaced, told from one that was created with the new values: by
nothing that it answers. -/
namespace RecordStore

namespace CursorProgram

variable {ρ α : Type}

/-- How a program goes on from the answer to its first call. -/
def resume (next : ρ → CursorProgram StoreError α) :
    EngineAttempt ρ × Cursor → Except Overflow (Except StoreError α) × Cursor
  | (.ok reply, c) => (next reply).run c
  | (.error (.error e), c) => (.ok (.error (.engine e)), c)
  | (.error (.overflow o), c) => (.error o, c)

theorem run_request (call : CursorCall) (next : call.Reply → CursorProgram StoreError α)
    (c : Cursor) : (request call next).run c = resume next (c.step call) := by
  rw [request, run]
  rcases c.step call with ⟨(e | o) | reply, c'⟩ <;> rfl

end CursorProgram

namespace Cursor

variable {c : Cursor} {handle handle' : UInt64}

/-- A cursor does the same under two handles. -/
structure Alike (c : Cursor) (handle handle' : UInt64) : Prop where
  find_eq : ∀ offset limit,
    c.step (.queryFind handle offset limit) = c.step (.queryFind handle' offset limit)
  findIds_eq : c.step (.queryFindIds handle) = c.step (.queryFindIds handle')
  count_eq : c.step (.queryCount handle) = c.step (.queryCount handle')
  remove_eq : c.step (.queryRemove handle) = c.step (.queryRemove handle')

/-- A handle is no more to a cursor than what it finds under it. -/
theorem alike (h : c.queries.compiled handle = c.queries.compiled handle')
    (hid : ∀ q, c.queries.compiled handle = .ok q → q.entityId = c.entity.id) :
    c.Alike handle handle' := by
  have hquery : c.query handle = c.query handle' := by
    rw [query, query, ← h]
    cases hq : c.queries.compiled handle with
    | error x => rfl
    | ok q => simp only [if_pos (hid q hq)]
  have hmatching : c.matching handle = c.matching handle' := by rw [matching, matching, hquery]
  refine ⟨fun offset limit => ?_, ?_, ?_, ?_⟩ <;> simp only [step, queryRemove, hmatching]

end Cursor

/-- Queries under two handles cannot be told apart: every operation gives the same answer and leaves
the same engine, also on a cursor that other calls were made on before. -/
structure Query.Alike (b : Binding) (offset limit : UInt64) (handle handle' : UInt64)
    (m : MemoryEngine) : Prop where
  find_eq : (Query.mk b (some handle) offset limit).find MemoryEngine.storage m =
    (Query.mk b (some handle') offset limit).find MemoryEngine.storage m
  findIds_eq : (Query.mk b (some handle) offset limit).findIds MemoryEngine.storage m =
    (Query.mk b (some handle') offset limit).findIds MemoryEngine.storage m
  count_eq : (Query.mk b (some handle) offset limit).count MemoryEngine.storage m =
    (Query.mk b (some handle') offset limit).count MemoryEngine.storage m
  remove_eq : (Query.mk b (some handle) offset limit).remove MemoryEngine.storage m =
    (Query.mk b (some handle') offset limit).remove MemoryEngine.storage m
  describe_eq : (Query.mk b (some handle) offset limit).describe MemoryEngine.storage m =
    (Query.mk b (some handle') offset limit).describe MemoryEngine.storage m
  cursor_alike : ∀ c : Cursor, c.queries = m.queries → c.entity.id = b.entity.id →
    c.Alike handle handle'

namespace MemoryEngine

variable {m : MemoryEngine} {handle handle' : UInt64}

/-- Programs that go on alike from answers that are equal come to the same. -/
theorem runCursor_congr {ρ α : Type} {id : UInt32} {write : Bool}
    {p p' : CursorProgram StoreError α} {next : ρ → CursorProgram StoreError α}
    {answer answer' : Cursor → EngineAttempt ρ × Cursor}
    (hp : ∀ c, p.run c = CursorProgram.resume next (answer c))
    (hp' : ∀ c, p'.run c = CursorProgram.resume next (answer' c))
    (h : ∀ c, c.queries = m.queries → c.entity.id = id → answer c = answer' c) :
    storage.runCursor id write p m = storage.runCursor id write p' m := by
  have hcursor : storage.withCursor id write p m = storage.withCursor id write p' m := by
    simp only [storage, withCursor]
    cases hd : m.demandSound >>= fun _ => m.entity id with
    | error e => rfl
    | ok e =>
      obtain ⟨-, -, he⟩ := bind_eq_ok.mp hd
      simp only [hp, hp', h (.start e m.queries write (m.rows id)) rfl (id_of_entity he)]
  rw [Storage.runCursor, Storage.runCursor, hcursor]

theorem alike (h : m.queries.compiled handle = m.queries.compiled handle') {b : Binding}
    (hid : ∀ q, m.queries.compiled handle = .ok q → q.entityId = b.entity.id)
    (offset limit : UInt64) : Query.Alike b offset limit handle handle' m := by
  have hcursor (c : Cursor) (hqueries : c.queries = m.queries)
      (he : c.entity.id = b.entity.id) : c.Alike handle handle' :=
    Cursor.alike (hqueries ▸ h) fun q hq => (hid q (hqueries ▸ hq)).trans he.symm
  have hids : storage.runCursor b.entity.id false (.answer (.queryFindIds handle)) m =
      storage.runCursor b.entity.id false
        (.answer (.queryFindIds handle') : CursorProgram StoreError (List UInt64)) m :=
    runCursor_congr (CursorProgram.run_request _ _) (CursorProgram.run_request _ _)
      fun c hqueries hid => (hcursor c hqueries hid).findIds_eq
  have hcount : storage.runCursor b.entity.id false (.answer (.queryCount handle)) m =
      storage.runCursor b.entity.id false
        (.answer (.queryCount handle') : CursorProgram StoreError UInt64) m :=
    runCursor_congr (CursorProgram.run_request _ _) (CursorProgram.run_request _ _)
      fun c hqueries hid => (hcursor c hqueries hid).count_eq
  have hremove : storage.runCursor b.entity.id true (.answer (.queryRemove handle)) m =
      storage.runCursor b.entity.id true
        (.answer (.queryRemove handle') : CursorProgram StoreError UInt64) m :=
    runCursor_congr (CursorProgram.run_request _ _) (CursorProgram.run_request _ _)
      fun c hqueries hid => (hcursor c hqueries hid).remove_eq
  have hdescribe : m.describeQuery handle = m.describeQuery handle' := by
    simp only [describeQuery, h]
  refine ⟨?_, ?_, ?_, ?_, ?_, hcursor⟩
  · exact runCursor_congr (CursorProgram.run_request _ _) (CursorProgram.run_request _ _)
      fun c hqueries hid => (hcursor c hqueries hid).find_eq offset limit
  · simp only [Query.findIds, Query.whileOpen, Query.run]
    exact congrArg (fun (r : StoreAttempt (List UInt64) × MemoryEngine) =>
      (r.1.map (Query.paginate offset limit), r.2)) hids
  · simp only [Query.count, Query.whileOpen, Query.runWhole, Query.run]
    exact congrArg (fun r => if offset = 0 ∧ limit = 0 then r else _) hcount
  · simp only [Query.remove, Query.whileOpen, Query.runWhole, Query.run]
    exact congrArg (fun r => if offset = 0 ∧ limit = 0 then r else _) hremove
  · simp only [Query.describe, Query.whileOpen, storage, hdescribe]

end MemoryEngine

namespace CompiledQuery

/-- What setting a parameter makes of a query: the first condition that takes it keeps its property
and its kind, and has the parameter for its values; without one, nothing changes. -/
inductive Rebound (key : PropertyKey) (v : Parameter) : CompiledQuery → CompiledQuery → Prop
  | first {before after : List Condition} {c : Condition} {test : Test}
    (none_before : ∀ c' ∈ before, ¬c'.Takes key.propertyId v) (takes : c.Takes key.propertyId v)
    (kind_eq : test.kind = c.test.kind) (operand_eq : test.operand = v) :
    Rebound key v ⟨key.entityId, before ++ c :: after⟩
      ⟨key.entityId, before ++ { c with test := test } :: after⟩
  | refused {q : CompiledQuery}
    (not_taken : key.entityId = q.entityId → ∀ c ∈ q.conditions, ¬c.Takes key.propertyId v) :
    Rebound key v q q

/-- What setting parameters makes of a query, one after the other. -/
inductive ReboundAll : List (PropertyKey × Parameter) → CompiledQuery → CompiledQuery → Prop
  | none {q : CompiledQuery} : ReboundAll [] q q
  | next {key : PropertyKey} {v : Parameter} {settings : List (PropertyKey × Parameter)}
    {q q' q'' : CompiledQuery} (head : Rebound key v q q') (tail : ReboundAll settings q' q'') :
    ReboundAll ((key, v) :: settings) q q''

variable {q q' : CompiledQuery} {key : PropertyKey} {v : Parameter}

theorem Rebound.eq (h : Rebound key v q q') :
    q' = if key.entityId = q.entityId then
      ⟨q.entityId, (Condition.rebindFirst? key.propertyId v q.conditions).getD q.conditions⟩
    else q := by
  cases h with
  | first none_before takes kind_eq operand_eq =>
    rw [if_pos rfl, Condition.rebindFirst?_append none_before takes kind_eq operand_eq]
    rfl
  | refused not_taken =>
    by_cases hid : key.entityId = q.entityId
    · rw [if_pos hid, Condition.rebindFirst?_eq_none.mpr (not_taken hid)]
      rfl
    · rw [if_neg hid]

end CompiledQuery

namespace MemoryEngine

variable {m : MemoryEngine} {handle : UInt64} {q : CompiledQuery}

/-- The query under a handle is as good as one that is created with its conditions. These are
accepted, and the new query cannot be told from the old one as long as both are left alone. Only
after an overflow, or behind the highest handle, no query is created; one that has hit the table of
the queries makes the old one unusable as well. -/
structure Recreatable (m : MemoryEngine) (handle : UInt64) (q : CompiledQuery) : Prop where
  compiled_eq : m.queries.compiled handle =
    if m.queries.poisoned then .error .queriesPoisoned else .ok q
  accepted : ∃ e, m.entity q.entityId = .ok e ∧ ∀ c ∈ q.conditions, e.accept c = .ok ()
  create_of_poisoned : m.poisoned = true →
    m.createQuery q.entityId q.conditions = (.error (.error .poisoned), m)
  create_of_lost : m.poisoned = false → m.queries.poisoned = true →
    m.createQuery q.entityId q.conditions = (.error (.error .queriesPoisoned), m)
  create_of_exhausted : m.poisoned = false → m.queries.poisoned = false →
    m.queries.issued = maxHandle →
      (m.createQuery q.entityId q.conditions).1 = .error (.overflow .addition)
  alike : m.poisoned = false → m.queries.poisoned = false → m.queries.issued ≠ maxHandle →
    ∃ handle' m', m.createQuery q.entityId q.conditions = (.ok handle', m') ∧
      ∀ last : List StorageCall,
        (∀ call ∈ last, call.Leaves handle ∧ call.Leaves handle') →
          ∀ b : Binding, b.entity.id = q.entityId → ∀ offset limit,
            Query.Alike b offset limit handle handle' (m'.run last)

/-- The query stays as good as a new one at any later time. Handles are left as long as fewer were
asked for, so many before and one with each later query, than there are. -/
def AsRecreated (m : MemoryEngine) (requests : Nat) (handle : UInt64) (q : CompiledQuery) : Prop :=
  ∀ later : List StorageCall, (∀ call ∈ later, call.Leaves handle) →
    (m.run later).Recreatable handle q ∧
      (requests + later.countP (·.requests) < maxHandle.toNat →
        (m.run later).queries.poisoned = false ∧ (m.run later).queries.issued ≠ maxHandle)

theorem Consistent.recreatable (h : m.Consistent) (hq : m.queries.opened[handle]? = some q) :
    m.Recreatable handle q := by
  obtain ⟨e, he, ha⟩ := h.accepted hq
  refine ⟨QueryTable.compiled_of_opened hq, ⟨e, he, ha⟩, fun hp => createQuery_of_poisoned hp _ _,
    ?_, ?_, ?_⟩
  · intro hp hs
    rw [createQuery_of_accepted hp he ha, QueryTable.issue, if_pos hs]
  · intro hp hs hi
    rw [createQuery_of_accepted hp he ha]
    rcases m.queries.issue_cases ⟨q.entityId, q.conditions⟩ with
      ⟨hs', -⟩ | ⟨-, -, hissue⟩ | ⟨-, hi', -⟩
    · rw [hs] at hs'
      cases hs'
    · rw [hissue]
    · exact absurd hi hi'
  · intro hp hs hi
    have hcreate := createQuery_of_accepted hp he ha
    rw [QueryTable.issue_of_ne hs hi] at hcreate
    refine ⟨_, _, hcreate, ?_⟩
    intro last hlast b hb offset limit
    have hlt := lt_add_one_of_le hi (h.le_issued hq)
    have hold : (m.queries.keep q).opened[handle]? = some q :=
      (Keyed.getElem?_insert_of_ne (UInt64.ne_of_lt hlt) q).trans hq
    have hnew : (m.queries.keep q).opened[m.queries.issued + 1]? = some q :=
      Std.ExtTreeMap.getElem?_insert_self
    obtain ⟨holdkept, -⟩ := run_of_leaves (m := { m with queries := m.queries.keep q })
      (fun call hc => (hlast call hc).1) (UInt64.le_of_lt hlt)
    obtain ⟨hnewkept, -⟩ := run_of_leaves (m := { m with queries := m.queries.keep q })
      (fun call hc => (hlast call hc).2) (UInt64.le_refl _)
    -- An overflow that comes later makes both unusable.
    have hboth := QueryTable.compiled_of_opened (holdkept.trans hold)
    refine alike (hboth.trans (QueryTable.compiled_of_opened (hnewkept.trans hnew)).symm) ?_ _ _
    intro q' hq'
    obtain ⟨-, hopened⟩ := QueryTable.compiled_eq_ok.mp hq'
    cases (holdkept.trans hold).symm.trans hopened
    exact hb.symm

theorem Consistent.asRecreated (h : m.Consistent) {requests : Nat}
    (hw : m.queries.Within requests) (hq : m.queries.opened[handle]? = some q) :
    m.AsRecreated requests handle q := by
  intro later hlater
  obtain ⟨hkept, -⟩ := run_of_leaves hlater (h.le_issued hq)
  exact ⟨(h.run later).recreatable (hkept.trans hq), (within_run hw later).sound⟩

section

variable (key : PropertyKey) (v : Parameter)

theorem bindParameter_eq_ok (hq : m.queries.compiled handle = .ok q) :
    (m.bindParameter handle key v).1 = .ok () ↔
      key.entityId = q.entityId ∧ ∃ c ∈ q.conditions, c.Takes key.propertyId v := by
  constructor
  · intro hok
    rcases m.bindParameter_cases handle key v with ⟨e, hb⟩ | ⟨q₀, conditions, hq₀, hid, hr, -⟩
    · rw [hb] at hok
      cases hok
    · cases hq.symm.trans hq₀
      obtain ⟨before, c, after, -, hsplit, -, hc, -⟩ := Condition.of_rebindFirst? hr
      exact ⟨hid.symm, c, by simp [hsplit], hc⟩
  · rintro ⟨hid, c, hmem, hc⟩
    simp only [bindParameter, hq, hid, ne_eq, not_true_eq_false, if_false]
    cases hr : Condition.rebindFirst? key.propertyId v q.conditions with
    | none => exact absurd hc (Condition.rebindFirst?_eq_none.mp hr c hmem)
    | some conditions => rfl

theorem bindParameter_failed (h : (m.bindParameter handle key v).1 ≠ .ok ()) :
    (m.bindParameter handle key v).2 = m := by
  rcases m.bindParameter_cases handle key v with ⟨e, hb⟩ | ⟨q, conditions, -, -, -, hb⟩
  · rw [hb]
  · rw [hb] at h
    exact absurd rfl h

/-- Setting a parameter changes the query under the handle, and nothing else. -/
theorem bindParameter_rebound (hq : m.queries.compiled handle = .ok q) :
    ∃ q', q.Rebound key v q' ∧
      (m.bindParameter handle key v).2 = { m with queries := m.queries.replace handle q' } := by
  rcases m.bindParameter_cases handle key v with ⟨e, hb⟩ | ⟨q₀, conditions, hq₀, hid, hr, hb⟩
  · refine ⟨q, .refused ?_, ?_⟩
    · intro hid c hmem hc
      have hok := (bindParameter_eq_ok key v hq).mpr ⟨hid, c, hmem, hc⟩
      rw [hb] at hok
      cases hok
    · rw [hb, QueryTable.replace_self (QueryTable.compiled_eq_ok.mp hq).2]
  · cases hq.symm.trans hq₀
    obtain ⟨before, c, after, test, hsplit, hbefore, hc, hkind, hoperand, rfl⟩ :=
      Condition.of_rebindFirst? hr
    obtain ⟨id, conditions⟩ := q
    cases hid
    cases hsplit
    exact ⟨_, .first hbefore hc hkind hoperand, by rw [hb]⟩

end

/-- Setting parameters one after the other changes the query under the handle, and nothing else. -/
theorem run_bindParameter (settings : List (PropertyKey × Parameter))
    (hq : m.queries.compiled handle = .ok q) :
    ∃ q', q.ReboundAll settings q' ∧
      m.run (settings.map fun s => .bindParameter handle s.1 s.2) =
        { m with queries := m.queries.replace handle q' } := by
  induction settings generalizing m q with
  | nil =>
    refine ⟨q, .none, ?_⟩
    rw [QueryTable.replace_self (QueryTable.compiled_eq_ok.mp hq).2]
    rfl
  | cons s settings ih =>
    obtain ⟨key, v⟩ := s
    obtain ⟨q', hrebound, hafter⟩ := bindParameter_rebound key v hq
    obtain ⟨q'', hall, hrun⟩ := ih (q := q')
      (m := { m with queries := m.queries.replace handle q' })
      (QueryTable.compiled_replace_self (QueryTable.compiled_eq_ok.mp hq).1 handle q')
    refine ⟨q'', .next hrebound hall, ?_⟩
    rw [QueryTable.replace_replace] at hrun
    rw [← hrun, ← hafter]
    rfl

/-- In every engine that calls have led to, setting a parameter of an open query succeeds if and
only if it is meant for the query's entity and a condition takes it. Then the first such condition
has its values replaced; otherwise nothing changes. What it makes of the query, and what a sequence
of settings makes of it, is accepted and is as good as a query that is created with the conditions
at any later time. Other queries and the records stay as they are. -/
theorem rebinding_recreates {calls : List StorageCall} (hm : new.run calls = m)
    (hq : m.queries.compiled handle = .ok q) (key : PropertyKey) (v : Parameter) :
    ((m.bindParameter handle key v).1 = .ok () ↔
        key.entityId = q.entityId ∧ ∃ c ∈ q.conditions, c.Takes key.propertyId v) ∧
      ((m.bindParameter handle key v).1 ≠ .ok () → (m.bindParameter handle key v).2 = m) ∧
      (∃ q', q.Rebound key v q' ∧
        (m.bindParameter handle key v).2 = { m with queries := m.queries.replace handle q' } ∧
        (∀ n, n ≠ handle →
          (m.bindParameter handle key v).2.queries.compiled n = m.queries.compiled n) ∧
        (m.bindParameter handle key v).2.AsRecreated (calls.countP (·.requests)) handle q') ∧
      ∀ settings : List (PropertyKey × Parameter), ∃ q', q.ReboundAll settings q' ∧
        m.run (settings.map fun s => .bindParameter handle s.1 s.2) =
          { m with queries := m.queries.replace handle q' } ∧
        (m.run (settings.map fun s => .bindParameter handle s.1 s.2)).AsRecreated
          (calls.countP (·.requests)) handle q' := by
  have hconsistent : m.Consistent := hm ▸ consistent_new.run calls
  have hwithin : m.queries.Within (calls.countP (·.requests)) := by
    have h := within_run (m := new) QueryTable.within_empty calls
    rwa [hm, Nat.zero_add] at h
  refine ⟨bindParameter_eq_ok key v hq, bindParameter_failed key v, ?_, ?_⟩
  · obtain ⟨q', hrebound, hafter⟩ := bindParameter_rebound key v hq
    have hstep := hconsistent.step (m.step_after (.bindParameter handle key v))
    refine ⟨q', hrebound, hafter, fun n hn => ?_, hstep.asRecreated ?_ ?_⟩
    · rw [hafter]
      exact QueryTable.compiled_replace_of_ne hn q'
    · exact (m.step_after (.bindParameter handle key v)).within hwithin
    · exact (congrArg (fun m' : MemoryEngine => m'.queries.opened[handle]?) hafter).trans
        Std.ExtTreeMap.getElem?_insert_self
  · intro settings
    obtain ⟨q', hall, hrun⟩ := run_bindParameter settings hq
    refine ⟨q', hall, hrun, (hconsistent.run _).asRecreated ?_ ?_⟩
    · rw [hrun]
      exact hwithin.replace handle q'
    · rw [hrun]
      exact Std.ExtTreeMap.getElem?_insert_self

/-- A query for notes that has three conditions on their text. -/
def noteQuery (text : String) : CompiledQuery :=
  ⟨1, [⟨⟨1, 2⟩, .stringIn ["a"]⟩, ⟨⟨1, 2⟩, .stringEquals text⟩, ⟨⟨1, 2⟩, .stringEquals "a"⟩]⟩

/-- Calls that open a store of notes and the query. -/
def noteCalls : List StorageCall := [
  .openWith ⟨#[⟨1, 1000, "Note", #[⟨1, 1001, "id", .long, .identifier⟩,
    ⟨2, 1002, "text", .string, .none⟩], none⟩], none⟩,
  .createQuery 1 (noteQuery "a").conditions]

theorem rebinding_recreates_note :
    ((new.run noteCalls).bindParameter 1 ⟨1, 2⟩ (.string "b")).1 = .ok () ∧
      ((new.run noteCalls).bindParameter 1 ⟨1, 2⟩ (.string "b")).2.AsRecreated 1 1
        (noteQuery "b") := by
  have hq : (new.run noteCalls).queries.compiled 1 = .ok (noteQuery "a") :=
    of_toOption (by decide +kernel)
  obtain ⟨hok, -, ⟨q', hrebound, -, -, hrecreated⟩, -⟩ :=
    rebinding_recreates (m := new.run noteCalls) rfl hq ⟨1, 2⟩ (.string "b")
  have hnote : q' = noteQuery "b" := hrebound.eq.trans (by decide +kernel)
  refine ⟨hok.mpr ⟨rfl, ⟨⟨1, 2⟩, .stringEquals "a"⟩, by simp [noteQuery], rfl, rfl⟩, ?_⟩
  rw [← hnote]
  exact hrecreated

end MemoryEngine

end RecordStore

import RecordStore.Proofs.Engine.Contents
import RecordStore.Proofs.Query.Rebinding

/-! Engines as calls have left them, from the first call on: which queries they keep, and that these
have conditions that their entities accept. -/
namespace RecordStore

/-- A call on an engine. -/
inductive StorageCall : Type 1
  | openWith (model : Model)
  | withCursor {ε α : Type} (entityId : UInt32) (write : Bool) (program : CursorProgram ε α)
  | createQuery (entityId : UInt32) (conditions : List Condition)
  | closeQuery (handle : UInt64)
  | describeQuery (handle : UInt64)
  | bindParameter (handle : UInt64) (key : PropertyKey) (value : Parameter)

/-- The call neither closes the query under a handle nor replaces its values. -/
def StorageCall.Leaves (handle : UInt64) : StorageCall → Prop
  | closeQuery h | bindParameter h _ _ => h ≠ handle
  | _ => True

/-- The call asks for a handle. -/
def StorageCall.requests : StorageCall → Bool
  | createQuery .. => true
  | _ => false

namespace MemoryEngine

/-- What a call leaves of an engine. -/
def after (m : MemoryEngine) : StorageCall → MemoryEngine
  | .openWith model => (storage.openWith model m).2
  | .withCursor entityId write program => (storage.withCursor entityId write program m).2
  | .createQuery entityId conditions => (storage.createQuery entityId conditions m).2
  | .closeQuery handle => (storage.closeQuery handle m).2
  | .describeQuery handle => (storage.describeQuery handle m).2
  | .bindParameter handle key value => (storage.bindParameter handle key value m).2

/-- What calls leave of an engine, one after the other. -/
def run (m : MemoryEngine) (calls : List StorageCall) : MemoryEngine := calls.foldl after m

variable {m : MemoryEngine}

theorem id_of_entity {id : UInt32} {e : ModelEntity} (h : m.entity id = .ok e) : e.id = id := by
  rw [entity] at h
  cases hm : m.model with
  | none =>
    rw [hm] at h
    cases h
  | some model =>
    rw [hm] at h
    cases he : model.entity? id with
    | none => simp [he] at h
    | some e' =>
      simp only [he, Except.ok.injEq] at h
      subst h
      simpa using Array.find?_some he

theorem createQuery_of_accepted {id : UInt32} {conditions : List Condition} {e : ModelEntity}
    (hp : m.poisoned = false) (he : m.entity id = .ok e)
    (ha : ∀ c ∈ conditions, e.accept c = .ok ()) :
    m.createQuery id conditions = ((m.queries.issue ⟨id, conditions⟩).1,
      { m with queries := (m.queries.issue ⟨id, conditions⟩).2 }) := by
  simp only [createQuery, demandSound, hp, he, Bool.false_eq_true, if_false, ok_bind,
    Attempt.ofExcept_ok, forM_eq_ok.mpr ha]

theorem createQuery_of_poisoned (hp : m.poisoned = true) (id : UInt32)
    (conditions : List Condition) :
    m.createQuery id conditions = (.error (.error .poisoned), m) := by
  simp only [createQuery, demandSound, hp, if_true, error_bind, Attempt.ofExcept_error]

/-- A new query takes the next handle, if its conditions are accepted. Behind the highest handle an
overflow hits the queries; otherwise nothing is done. -/
theorem createQuery_cases (id : UInt32) (conditions : List Condition) (m : MemoryEngine) :
    (∃ e, m.createQuery id conditions = (.error e, m)) ∨
      (m.queries.issued = maxHandle ∧ m.createQuery id conditions =
        (.error (.overflow .addition), { m with queries := { m.queries with poisoned := true } })) ∨
      ∃ e, m.poisoned = false ∧ m.entity id = .ok e ∧ (∀ c ∈ conditions, e.accept c = .ok ()) ∧
        m.queries.poisoned = false ∧ m.queries.issued ≠ maxHandle ∧
        m.createQuery id conditions =
          (.ok (m.queries.issued + 1), { m with queries := m.queries.keep ⟨id, conditions⟩ }) := by
  by_cases hp : m.poisoned = true
  · exact .inl ⟨_, createQuery_of_poisoned hp id conditions⟩
  · rw [Bool.not_eq_true] at hp
    cases he : m.entity id with
    | error x =>
      simp only [createQuery, demandSound, hp, he, Bool.false_eq_true, if_false, ok_bind]
      exact .inl ⟨_, rfl⟩
    | ok e =>
      cases hc : conditions.forM e.accept with
      | error x =>
        simp only [createQuery, demandSound, hp, he, Bool.false_eq_true, if_false, ok_bind,
          Attempt.ofExcept_ok, hc]
        exact .inl ⟨_, rfl⟩
      | ok _ =>
        have ha := forM_eq_ok.mp hc
        rw [createQuery_of_accepted hp he ha]
        rcases m.queries.issue_cases ⟨id, conditions⟩ with ⟨-, hi⟩ | ⟨-, hmax, hi⟩ | ⟨hq, hne, hi⟩
        all_goals rw [hi]
        · exact .inl ⟨_, rfl⟩
        · exact .inr (.inl ⟨hmax, rfl⟩)
        · exact .inr (.inr ⟨e, hp, rfl, ha, hq, hne, rfl⟩)

/-- Values are replaced in the first condition that takes them; otherwise nothing is done. -/
theorem bindParameter_cases (handle : UInt64) (key : PropertyKey) (v : Parameter)
    (m : MemoryEngine) :
    (∃ e, m.bindParameter handle key v = (.error e, m)) ∨
      ∃ q conditions, m.queries.compiled handle = .ok q ∧ q.entityId = key.entityId ∧
        Condition.rebindFirst? key.propertyId v q.conditions = some conditions ∧
        m.bindParameter handle key v =
          (.ok (), { m with queries := m.queries.replace handle ⟨q.entityId, conditions⟩ }) := by
  simp only [bindParameter]
  cases hq : m.queries.compiled handle with
  | error e => exact .inl ⟨_, rfl⟩
  | ok q =>
    simp only [ne_eq, ite_not]
    by_cases hid : q.entityId = key.entityId
    · simp only [if_pos hid]
      cases hr : Condition.rebindFirst? key.propertyId v q.conditions with
      | none => exact .inl ⟨_, rfl⟩
      | some conditions => exact .inr ⟨q, conditions, rfl, hid, hr, rfl⟩
    · simp only [if_neg hid]
      exact .inl ⟨_, rfl⟩

/-- What a call can do to an engine. -/
inductive Step (m : MemoryEngine) : StorageCall → MemoryEngine → Prop
  | kept {call : StorageCall} {m' : MemoryEngine} (model_eq : m.model = none ∨ m'.model = m.model)
    (queries_eq : m'.queries = m.queries) : Step m call m'
  | created {id : UInt32} {conditions : List Condition} {e : ModelEntity}
    (entity_eq : m.entity id = .ok e) (accepted : ∀ c ∈ conditions, e.accept c = .ok ())
    (sound : m.queries.poisoned = false) (issued_ne : m.queries.issued ≠ maxHandle) :
    Step m (.createQuery id conditions) { m with queries := m.queries.keep ⟨id, conditions⟩ }
  | exhausted {id : UInt32} {conditions : List Condition}
    (issued_eq : m.queries.issued = maxHandle) :
    Step m (.createQuery id conditions) { m with queries := { m.queries with poisoned := true } }
  | closed {handle : UInt64} :
    Step m (.closeQuery handle) { m with queries := m.queries.erase handle }
  | rebound {handle : UInt64} {key : PropertyKey} {v : Parameter} {q : CompiledQuery}
    {conditions : List Condition} (compiled_eq : m.queries.compiled handle = .ok q)
    (rebind_eq : Condition.rebindFirst? key.propertyId v q.conditions = some conditions) :
    Step m (.bindParameter handle key v)
      { m with queries := m.queries.replace handle ⟨q.entityId, conditions⟩ }

theorem step_after (m : MemoryEngine) (call : StorageCall) : Step m call (m.after call) := by
  cases call with
  | openWith model =>
    have hafter : m.after (.openWith model) = (m.openWith model).2 := rfl
    rw [hafter, openWith]
    cases m.demandSound with
    | error e => exact .kept (.inr rfl) rfl
    | ok _ =>
      cases hm : m.model with
      | some old => exact .kept (.inr rfl) rfl
      | none => exact .kept (.inl hm) rfl
  | withCursor id write program =>
    exact .kept (.inr (m.model_withCursor id write program))
      (m.queries_withCursor id write program)
  | createQuery id conditions =>
    have hafter : m.after (.createQuery id conditions) = (m.createQuery id conditions).2 := rfl
    rw [hafter]
    rcases m.createQuery_cases id conditions with
      ⟨e, hc⟩ | ⟨hi, hc⟩ | ⟨e, -, he, ha, hp, hi, hc⟩
    all_goals rw [hc]
    · exact .kept (.inr rfl) rfl
    · exact .exhausted hi
    · exact .created he ha hp hi
  | closeQuery handle =>
    have hafter : m.after (.closeQuery handle) = (m.closeQuery handle).2 := rfl
    rw [hafter, closeQuery]
    cases m.queries.compiled handle with
    | error e => exact .kept (.inr rfl) rfl
    | ok q => exact .closed
  | describeQuery handle => exact .kept (.inr rfl) rfl
  | bindParameter handle key v =>
    have hafter : m.after (.bindParameter handle key v) = (m.bindParameter handle key v).2 := rfl
    rw [hafter]
    rcases m.bindParameter_cases handle key v with ⟨e, hb⟩ | ⟨q, conditions, hq, -, hr, hb⟩
    · rw [hb]
      exact .kept (.inr rfl) rfl
    · rw [hb]
      exact .rebound hq hr

/-- No call asks for more than one handle. -/
theorem Step.within {call : StorageCall} {m' : MemoryEngine} (hs : m.Step call m') {n : Nat}
    (h : m.queries.Within n) : m'.queries.Within (n + if call.requests then 1 else 0) := by
  cases hs with
  | kept model_eq queries_eq => exact queries_eq ▸ h.mono (Nat.le_add_right _ _)
  | created entity_eq accepted sound issued_ne => exact h.keep sound issued_ne _
  | exhausted issued_eq => exact h.overflow issued_eq
  | closed => exact h.erase _
  | rebound compiled_eq rebind_eq => exact h.replace _ _

theorem within_run {n : Nat} (h : m.queries.Within n) (calls : List StorageCall) :
    (m.run calls).queries.Within (n + calls.countP (·.requests)) := by
  induction calls generalizing m n with
  | nil => exact h
  | cons call calls ih =>
    have hrest := ih ((m.step_after call).within h)
    rwa [Nat.add_assoc, Nat.add_comm (ite _ _ _), ← List.countP_cons] at hrest

/-- What every engine keeps that calls have led to: the handle of a query was issued, and its
conditions are accepted by its entity. -/
structure Consistent (m : MemoryEngine) : Prop where
  le_issued : ∀ {n : UInt64} {q : CompiledQuery},
    m.queries.opened[n]? = some q → n ≤ m.queries.issued
  accepted : ∀ {n : UInt64} {q : CompiledQuery}, m.queries.opened[n]? = some q →
    ∃ e, m.entity q.entityId = .ok e ∧ ∀ c ∈ q.conditions, e.accept c = .ok ()

theorem consistent_new : new.Consistent := by
  refine ⟨?_, ?_⟩ <;>
    · intro n q h
      simp [new, QueryTable.empty] at h

namespace Consistent

variable {m' : MemoryEngine}

theorem insert (h : m.Consistent) {issued n : UInt64} {q : CompiledQuery}
    (hi : m.queries.issued ≤ issued) (hn : n ≤ issued)
    (hq : ∃ e, m.entity q.entityId = .ok e ∧ ∀ c ∈ q.conditions, e.accept c = .ok ()) :
    Consistent { m with
      queries := { m.queries with issued := issued, opened := m.queries.opened.insert n q } } := by
  refine ⟨?_, ?_⟩
  · intro k q' hk
    rcases Keyed.of_getElem?_insert hk with ⟨rfl, -⟩ | hold
    · exact hn
    · exact UInt64.le_trans (h.le_issued hold) hi
  · intro k q' hk
    rcases Keyed.of_getElem?_insert hk with ⟨-, rfl⟩ | hold
    · exact hq
    · exact h.accepted hold

theorem erase (h : m.Consistent) (n : UInt64) :
    Consistent { m with queries := m.queries.erase n } :=
  ⟨fun hk => h.le_issued (Keyed.of_getElem?_erase hk),
    fun hk => h.accepted (Keyed.of_getElem?_erase hk)⟩

theorem step (h : m.Consistent) {call : StorageCall} (hs : m.Step call m') : m'.Consistent := by
  cases hs with
  | kept model_eq queries_eq =>
    -- An engine that is not open yet has accepted no query, and so keeps none.
    have hmodel {n : UInt64} {q : CompiledQuery} (hn : m.queries.opened[n]? = some q) :
        m'.model = m.model := by
      refine model_eq.resolve_left fun hnone => ?_
      obtain ⟨e, he, -⟩ := h.accepted hn
      rw [entity, hnone] at he
      cases he
    refine ⟨?_, ?_⟩
    · intro n q hn
      rw [queries_eq] at hn ⊢
      exact h.le_issued hn
    · intro n q hn
      rw [queries_eq] at hn
      rw [entity, hmodel hn]
      exact h.accepted hn
  | created entity_eq accepted sound issued_ne =>
    exact h.insert (UInt64.le_of_lt (lt_add_one_of_le issued_ne (UInt64.le_refl _)))
      (UInt64.le_refl _) ⟨_, entity_eq, accepted⟩
  | exhausted issued_eq => exact ⟨h.le_issued, h.accepted⟩
  | closed => exact h.erase _
  | rebound compiled_eq rebind_eq =>
    obtain ⟨-, hopened⟩ := QueryTable.compiled_eq_ok.mp compiled_eq
    obtain ⟨e, he, ha⟩ := h.accepted hopened
    exact h.insert (UInt64.le_refl _) (h.le_issued hopened)
      ⟨e, he, ModelEntity.accept_rebindFirst rebind_eq ha⟩

theorem run (h : m.Consistent) (calls : List StorageCall) : (m.run calls).Consistent := by
  induction calls generalizing m with
  | nil => exact h
  | cons call calls ih => exact ih (h.step (m.step_after call))

end Consistent

/-- Calls on other queries leave a query as it is, and new ones take other handles. -/
theorem after_of_leaves {call : StorageCall} {handle : UInt64} (hl : call.Leaves handle)
    (hi : handle ≤ m.queries.issued) :
    (m.after call).queries.opened[handle]? = m.queries.opened[handle]? ∧
      handle ≤ (m.after call).queries.issued := by
  have hs := m.step_after call
  generalize m.after call = m' at hs
  cases hs with
  | kept model_eq queries_eq =>
    rw [queries_eq]
    exact ⟨rfl, hi⟩
  | created entity_eq accepted sound issued_ne =>
    have hlt := lt_add_one_of_le issued_ne hi
    exact ⟨Keyed.getElem?_insert_of_ne (UInt64.ne_of_lt hlt) _, UInt64.le_of_lt hlt⟩
  | exhausted issued_eq => exact ⟨rfl, hi⟩
  | closed => exact ⟨Keyed.getElem?_erase_of_ne (Ne.symm hl), hi⟩
  | rebound compiled_eq rebind_eq =>
    exact ⟨Keyed.getElem?_insert_of_ne (Ne.symm hl) _, hi⟩

/-- A query stays as it is as long as no call closes it or replaces its values. -/
theorem run_of_leaves {calls : List StorageCall} {handle : UInt64}
    (hl : ∀ call ∈ calls, call.Leaves handle) (hi : handle ≤ m.queries.issued) :
    (m.run calls).queries.opened[handle]? = m.queries.opened[handle]? ∧
      handle ≤ (m.run calls).queries.issued := by
  induction calls generalizing m with
  | nil => exact ⟨rfl, hi⟩
  | cons call calls ih =>
    rw [List.forall_mem_cons] at hl
    obtain ⟨hq, hle⟩ := after_of_leaves hl.1 hi
    obtain ⟨hrest, hlast⟩ := ih hl.2 hle
    exact ⟨hrest.trans hq, hlast⟩

end MemoryEngine

end RecordStore

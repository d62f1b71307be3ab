import RecordStore.Proofs.Query.Matching
import RecordStore.Proofs.Store.Handles
import RecordStore.Proofs.Store.Refinement

/-! What a store in use holds, if all calls are on bindings that its model was built of: records of
these bindings, and queries whose conditions it has accepted. -/
namespace RecordStore

namespace Binding

/-- The row holds a record of every one of the bindings that has the entity. -/
def StoresFor (bindings : List Binding) (entityId : UInt32) (id : UInt64) (bytes : ByteArray) :
    Prop :=
  ∀ b ∈ bindings, b.entity.id = entityId → b.Stores id bytes

theorem storesFor_of_encode {bindings : List Binding} {b : Binding}
    (hn : (bindings.map fun b => b.entity.id).Nodup) (hb : b ∈ bindings) (hwf : b.WellFormed)
    {r : Record b.types} {id : UInt64} {bytes : ByteArray} (he : b.encode r id = .ok bytes)
    (hid : id ≠ 0) : StoresFor bindings b.entity.id id bytes := by
  intro other ho heq
  have hsame : other = b := List.inj_on_of_nodup_map hn ho hb heq
  subst hsame
  exact ⟨hid, _, decode_of_encode hwf he⟩

/-- Fields that can be encoded are stored as their types call for. -/
theorem storedByType_of_ofEntity {e : Entity} {b : Binding} (h : ofEntity e = .ok b) :
    b.StoredByType := by
  obtain ⟨-, -, htypes⟩ := of_ofEntity h
  intro f hf
  obtain ⟨ht, -, hs⟩ := BoundField.encodingOf_eq_ok.mp (htypes f hf)
  rw [hs, ht, SemanticType.storeType]

theorem Generated.storedByType {b : Binding} (h : b.Generated) : b.StoredByType := by
  obtain ⟨s, config, source, -, e, -, hb⟩ := h
  exact storedByType_of_ofEntity hb

end Binding

/-- The call is on one of the bindings. -/
def ClientCall.On (bindings : List Binding) : ClientCall → Prop
  | .box call => call.1 ∈ bindings
  | .putAll b _ => b ∈ bindings
  | .query b _ => b ∈ bindings
  | .use .. | .drop _ => True

namespace MemoryEngine

theorem entity_of_model {m m' : MemoryEngine} (h : m'.model = m.model) (id : UInt32) :
    m'.entity id = m.entity id := by
  rw [entity, entity, h]

/-- What an engine holds for bindings. -/
structure Holds (bindings : List Binding) (m : MemoryEngine) : Prop where
  entity : ∀ b ∈ bindings, m.entity b.entity.id = .ok b.modelEntity
  rows : ∀ id, (m.rows id).All (Binding.StoresFor bindings id)
  accepted : ∀ (n : UInt64) (compiled : CompiledQuery),
    m.queries.opened[n]? = some compiled → ∀ b ∈ bindings, b.entity.id = compiled.entityId →
      ∀ c ∈ compiled.conditions, b.modelEntity.accept c = .ok ()

namespace Holds

variable {bindings : List Binding} {m m' : MemoryEngine}

theorem rows_of_mem (h : Holds bindings m) {b : Binding} (hb : b ∈ bindings) :
    (m.rows b.entity.id).All b.Stores := fun k bytes hk => h.rows _ k bytes hk b hb rfl

theorem of_runs (h : Holds bindings m) {id : UInt32}
    (hr : m.Runs (Binding.StoresFor bindings id) id m') : Holds bindings m' := by
  refine ⟨?_, ?_, ?_⟩
  · intro b hb
    rw [entity_of_model hr.model_eq]
    exact h.entity b hb
  · obtain ⟨α, p, write, rfl, hp⟩ := hr
    exact all_withCursor h.rows hp write
  · rw [hr.queries_eq]
    exact h.accepted

/-- Queries may go, and queries with accepted conditions may come. -/
theorem setQueries (h : Holds bindings m) {queries : QueryTable}
    (hq : ∀ (n : UInt64) (compiled : CompiledQuery), queries.opened[n]? = some compiled →
      m.queries.opened[n]? = some compiled ∨ ∀ b ∈ bindings, b.entity.id = compiled.entityId →
        ∀ c ∈ compiled.conditions, b.modelEntity.accept c = .ok ()) :
    Holds bindings { m with queries := queries } := by
  refine ⟨h.entity, h.rows, ?_⟩
  intro n compiled hn
  rcases hq n compiled hn with hold | hnew
  · exact h.accepted n compiled hold
  · exact hnew

theorem insertQuery (h : Holds bindings m) {queries : QueryTable} {n : UInt64}
    {compiled : CompiledQuery} (ho : queries.opened = m.queries.opened.insert n compiled)
    (hc : ∀ b ∈ bindings, b.entity.id = compiled.entityId →
      ∀ c ∈ compiled.conditions, b.modelEntity.accept c = .ok ()) :
    Holds bindings { m with queries := queries } := by
  refine h.setQueries ?_
  intro k other hk
  rw [ho] at hk
  rcases Keyed.of_getElem?_insert hk with ⟨-, rfl⟩ | hold
  · exact .inr hc
  · exact .inl hold

theorem eraseQuery (h : Holds bindings m) (n : UInt64) :
    Holds bindings { m with queries := m.queries.erase n } := by
  refine h.setQueries ?_
  intro k compiled hk
  exact .inl (Keyed.of_getElem?_erase hk)

end Holds

end MemoryEngine

namespace Client

/-- What a store in use holds: records of the bindings, accepted queries, and for each query that
is open the one that was compiled for its binding. -/
structure Sound (bindings : List Binding) (c : Client) : Prop where
  tracks : c.Tracks
  holds : c.engine.Holds bindings
  compiled : ∀ h ∈ c.held, ∀ q, h.query = some q → q.binding ∈ bindings ∧
    ∀ n, q.handle = some n →
      ∃ conditions, c.engine.queries.opened[n]? = some ⟨q.binding.entity.id, conditions⟩

namespace Sound

variable {bindings : List Binding} {c : Client} {m : MemoryEngine}

theorem of_runs (h : Sound bindings c) {id : UInt32}
    (hr : c.engine.Runs (Binding.StoresFor bindings id) id m) :
    Sound bindings { c with engine := m } := by
  refine ⟨h.tracks.of_runs hr, h.holds.of_runs hr, ?_⟩
  simp only [hr.queries_eq]
  exact h.compiled

/-- A held query is replaced by what became of it, and the engine by one with the same compiled
queries under other handles. -/
theorem set (h : Sound bindings c) {place : Nat} {handle : UInt64} {old new : Option Query}
    (hp : c.held[place]? = some ⟨handle, old⟩)
    (ht : Tracks ⟨m, c.held.set place ⟨handle, new⟩⟩) (hm : m.Holds bindings)
    (hq : ∀ n, n ≠ handle → m.queries.opened[n]? = c.engine.queries.opened[n]?)
    (hnew : ∀ q, new = some q → q.binding ∈ bindings ∧ ∀ n, q.handle = some n →
      ∃ conditions, m.queries.opened[n]? = some ⟨q.binding.entity.id, conditions⟩) :
    Sound bindings ⟨m, c.held.set place ⟨handle, new⟩⟩ := by
  refine ⟨ht, hm, ?_⟩
  intro x hx q hxq
  rcases (mem_set_held h.tracks.nodup hp).mp hx with rfl | ⟨hx, hne⟩
  · exact hnew q hxq
  · obtain ⟨hb, hc⟩ := h.compiled x hx q hxq
    refine ⟨hb, fun n hn => ?_⟩
    have hother : n ≠ handle := by
      rw [h.tracks.handle_eq x hx q hxq n hn]
      exact hne
    simp only [hq n hother]
    exact hc n hn

/-- What a call other than closing makes of a query and its engine. -/
theorem perform (h : Sound bindings c) {place : Nat} {handle : UInt64} {q : Query}
    (hp : c.held[place]? = some ⟨handle, some q⟩) {call : QueryCall} (hc : call ≠ .close) :
    Sound bindings ⟨(q.perform MemoryEngine.storage c.engine call).2,
      c.held.set place ⟨handle, some (q.perform MemoryEngine.storage c.engine call).1.2⟩⟩ := by
  obtain ⟨hhandle, hbinding, hengine⟩ :=
    q.perform_cases (Binding.StoresFor bindings q.binding.entity.id) hc c.engine
  have ht := h.tracks.perform hp hc
  obtain ⟨hb, hcompiled⟩ := h.compiled _ (List.mem_of_getElem? hp) q rfl
  rcases hengine with hr | ⟨n, compiled, key, value, conditions, hn, hm, hrebind, he⟩
  · refine h.set hp ht (h.holds.of_runs hr) (fun n _ => by rw [hr.queries_eq]) ?_
    rintro _ ⟨⟩
    rw [hbinding, hhandle, hr.queries_eq]
    exact ⟨hb, hcompiled⟩
  · -- A parameter was set: the compiled query keeps its entity, and so its binding.
    obtain ⟨-, hm⟩ := QueryTable.compiled_eq_ok.mp hm
    obtain ⟨previous, hprevious⟩ := hcompiled n hn
    rw [hm] at hprevious
    cases hprevious
    have hhandles := h.tracks.handle_eq _ (List.mem_of_getElem? hp) q rfl n hn
    subst hhandles
    rw [he] at ht ⊢
    refine h.set hp ht (h.holds.insertQuery rfl ?_) ?_ ?_
    · intro b hbm hid
      exact ModelEntity.accept_rebindFirst hrebind (h.holds.accepted n _ hm b hbm hid)
    · exact fun k hk => Keyed.getElem?_insert_of_ne hk _
    · rintro _ ⟨⟩
      rw [hbinding, hhandle]
      refine ⟨hb, fun k hk => ⟨conditions, ?_⟩⟩
      rw [hn, Option.some.injEq] at hk
      rw [← hk, QueryTable.opened_replace, Std.ExtTreeMap.getElem?_insert_self]

/-- What closing makes of a query and its engine, whatever is held in its place. -/
theorem close (h : Sound bindings c) {place : Nat} {handle : UInt64} {q : Query}
    (hp : c.held[place]? = some ⟨handle, some q⟩) {new : Option Query}
    (hnew : ∀ q', new = some q' → q'.handle = none ∧ q'.binding = q.binding) :
    Sound bindings ⟨(q.close MemoryEngine.storage c.engine).2,
      c.held.set place ⟨handle, new⟩⟩ := by
  have ht := h.tracks.close hp fun q' hq' => (hnew q' hq').1
  obtain ⟨hb, -⟩ := h.compiled _ (List.mem_of_getElem? hp) q rfl
  have hreplaced (queries : QueryTable) : ∀ q', new = some q' → q'.binding ∈ bindings ∧
      ∀ n, q'.handle = some n →
        ∃ conditions, queries.opened[n]? = some ⟨q'.binding.entity.id, conditions⟩ := by
    intro q' hq'
    obtain ⟨hnone, hbinding⟩ := hnew q' hq'
    rw [hnone, hbinding]
    exact ⟨hb, nofun⟩
  cases hq : q.handle with
  | none =>
    have hsame : (q.close MemoryEngine.storage c.engine).2 = c.engine := by
      rw [Query.close, hq]
    rw [hsame] at ht ⊢
    exact h.set hp ht h.holds (fun _ _ => rfl) (hreplaced _)
  | some n =>
    have hn := h.tracks.handle_eq _ (List.mem_of_getElem? hp) q rfl n hq
    subst hn
    rw [Query.snd_close hq] at ht ⊢
    by_cases hs : c.engine.queries.poisoned = true
    · simp only [if_pos hs] at ht ⊢
      exact h.set hp ht h.holds (fun _ _ => rfl) (hreplaced _)
    · simp only [if_neg hs] at ht ⊢
      exact h.set hp ht (h.holds.eraseQuery n) (fun k hk => Keyed.getElem?_erase_of_ne hk)
        (hreplaced _)

theorem query (h : Sound bindings c) (store : Store) {b : Binding} (hb : b ∈ bindings)
    (conditions : List Condition) : Sound bindings (c.step store (.query b conditions)) := by
  have ht := h.tracks.query store b conditions
  rw [step] at ht ⊢
  rcases Box.query_cases store b conditions c.engine with
    ⟨e, hq⟩ | ⟨-, hq⟩ | ⟨e, -, he, ha, -, hi, hq⟩
  all_goals rw [hq] at ht ⊢
  · exact h
  · exact ⟨ht, ⟨h.holds.entity, h.holds.rows, h.holds.accepted⟩, h.compiled⟩
  · refine ⟨ht, h.holds.insertQuery rfl ?_, ?_⟩
    · intro other ho hid
      have hentity := h.holds.entity other ho
      simp only [hid, he] at hentity
      cases hentity
      exact ha
    · intro x hx q hxq
      rcases List.mem_append.mp hx with hx | hx
      · obtain ⟨hbq, hc⟩ := h.compiled x hx q hxq
        refine ⟨hbq, fun n hn => ?_⟩
        -- The new handle was never issued before, so no other query is under it.
        have hlt : n < c.engine.queries.issued + 1 := by
          rw [h.tracks.handle_eq x hx q hxq n hn]
          exact lt_add_one_of_le hi (h.tracks.le_issued x hx)
        simp only [QueryTable.opened_keep, Keyed.getElem?_insert_of_ne (UInt64.ne_of_lt hlt)]
        exact hc n hn
      · simp only [Query.ofHandle, Option.map_some, Option.toList_some,
          List.mem_singleton] at hx
        subst hx
        cases hxq
        refine ⟨hb, ?_⟩
        rintro _ ⟨⟩
        exact ⟨conditions, Std.ExtTreeMap.getElem?_insert_self⟩

section

variable (hn : (bindings.map fun b => b.entity.id).Nodup) (hwf : ∀ b ∈ bindings, b.WellFormed)
  (store : Store)
include hn hwf

theorem step (h : Sound bindings c) {call : ClientCall} (hon : call.On bindings) :
    Sound bindings (c.step store call) := by
  cases call with
  | box call =>
    exact h.of_runs (MemoryEngine.runs_perform store
      (fun r id data he hid => Binding.storesFor_of_encode hn hon (hwf _ hon) he hid) c.engine)
  | putAll b rs =>
    exact h.of_runs (MemoryEngine.runs_putAll store
      (fun r id data he hid => Binding.storesFor_of_encode hn hon (hwf _ hon) he hid) rs c.engine)
  | query b conditions => exact h.query store hon conditions
  | use place call =>
    rw [Client.step, onQuery]
    rcases hp : c.held[place]? with - | ⟨handle, - | q⟩
    · exact h
    · exact h
    · by_cases hc : call = .close
      · subst hc
        refine h.close hp ?_
        rintro _ ⟨⟩
        exact ⟨q.handle_close MemoryEngine.storage c.engine,
          q.binding_close MemoryEngine.storage c.engine⟩
      · exact h.perform hp hc
  | drop place =>
    rw [Client.step, onQuery]
    rcases hp : c.held[place]? with - | ⟨handle, - | q⟩
    · exact h
    · exact h
    · exact h.close hp (by simp)

theorem run (h : Sound bindings c) {calls : List ClientCall}
    (hon : ∀ call ∈ calls, call.On bindings) : Sound bindings (c.run store calls) := by
  induction calls generalizing c with
  | nil => exact h
  | cons call calls ih =>
    rw [List.forall_mem_cons] at hon
    exact ih (h.step hn hwf store hon.1) hon.2

end

end Sound

theorem numbered_step {c : Client} {model : Model} (store : Store) (h : c.engine.Numbered model)
    (call : ClientCall) : (c.step store call).engine.Numbered model := by
  rcases c.step_cases store call with ⟨id, α, p, write, hm, -⟩ | ⟨queries, hm, -⟩
  · rw [hm]
    exact h.withCursor id write p
  · rw [hm]
    exact ⟨h.model_eq, h.tabled, h.rows⟩

theorem numbered_run {c : Client} {model : Model} (store : Store) (h : c.engine.Numbered model)
    (calls : List ClientCall) : (c.run store calls).engine.Numbered model := by
  induction calls generalizing c with
  | nil => exact h
  | cons call calls ih => exact ih (numbered_step store h call)

/-- A store that has just been opened with the model of bindings. -/
theorem sound_opened {bindings : List Binding} {last : Option IdUid} {model : Model}
    (hm : Binding.Builds bindings last model) : Sound bindings ⟨.opened model, []⟩ := by
  refine ⟨tracks_start rfl, ⟨?_, ?_, ?_⟩, by simp⟩
  · intro b hb
    exact MemoryEngine.entity_opened (hm.entity?_eq hb)
  · intro id
    rw [MemoryEngine.rows_opened]
    exact Rows.all_empty
  · intro n compiled hc
    simp [MemoryEngine.opened, MemoryEngine.new, QueryTable.empty] at hc

/-- Whatever is called on a store of generated bindings, it stays sound. -/
theorem sound_run {bindings : List Binding} {last : Option IdUid} {model : Model}
    (hg : ∀ b ∈ bindings, b.Generated) (ha : ∀ b ∈ bindings, b.entity.Assembled)
    (hm : Binding.Builds bindings last model) (store : Store) {calls : List ClientCall}
    (hon : ∀ call ∈ calls, call.On bindings) :
    Sound bindings (Client.run store ⟨.opened model, []⟩ calls) :=
  (sound_opened hm).run (Binding.of_builds hm).1 (fun b hb => (hg b hb).wellFormed (ha b hb))
    store hon

end Client

end RecordStore

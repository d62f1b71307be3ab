import RecordStore.Proofs.Query.Operations
import RecordStore.Proofs.Store.Batch

/-! How high the ids of an entity get: no further than what is asked for, as long as there are that
many. -/
namespace RecordStore

/-- The highest id after a record was put that asks for an id, if there was no bound: asking for an
id raises it to that, and asking for a new one raises it by one. -/
def raise (last : Nat) (asked : UInt64) : Nat :=
  if asked = 0 then last + 1 else max last asked.toNat

theorem le_raise (last : Nat) (asked : UInt64) : last ≤ raise last asked := by
  rw [raise]
  split <;> omega

theorem raise_mono {last last' : Nat} (h : last ≤ last') (asked : UInt64) :
    raise last asked ≤ raise last' asked := by
  rw [raise, raise]
  split <;> omega

theorem toNat_max_nextId? {last asked id : UInt64} (h : nextId? last asked = some id) :
    (max last id).toNat = raise last.toNat asked := by
  rw [UInt64.toNat_max, raise]
  by_cases h0 : asked = 0
  · subst h0
    rw [toNat_of_nextId?_zero h, if_pos rfl]
    exact Nat.max_eq_right (Nat.le_succ _)
  · rw [eq_of_nextId? h0 h, if_neg h0]

theorem lt_raise_of_nextId? {last asked : UInt64} (h : nextId? last asked = none) :
    maxId.toNat < raise last.toNat asked := by
  obtain ⟨rfl, rfl⟩ := nextId?_eq_none.mp h
  exact Nat.lt_succ_self _

/-- The highest id after records were put that ask for ids, if there was no bound. -/
def reach (last : Nat) (asked : List UInt64) : Nat := asked.foldl raise last

theorem reach_append (last : Nat) (xs ys : List UInt64) :
    reach last (xs ++ ys) = reach (reach last xs) ys := List.foldl_append

theorem le_reach (last : Nat) (asked : List UInt64) : last ≤ reach last asked := by
  induction asked generalizing last with
  | nil => exact Nat.le_refl _
  | cons id asked ih => exact Nat.le_trans (le_raise last id) (ih _)

theorem reach_mono {last last' : Nat} (h : last ≤ last') (asked : List UInt64) :
    reach last asked ≤ reach last' asked := by
  induction asked generalizing last last' with
  | nil => exact h
  | cons id asked ih => exact ih (raise_mono h id)

namespace Puts

variable {b : Binding} {rows rows' : Rows} {rs : List (Record b.types)} {ids : List UInt64}

/-- Putting records takes the last id as far as what they ask for. -/
theorem toNat_lastId (h : Puts b rows rs ids rows') :
    rows'.lastId.toNat = reach rows.lastId.toNat (rs.map b.id) := by
  induction h with
  | nil => rfl
  | @cons rows rows' r rs id ids data id_eq encode_eq rest ih =>
    have hinsert : (rows.insert id data).lastId.toNat = raise rows.lastId.toNat (b.id r) :=
      toNat_max_nextId? id_eq
    rw [ih, hinsert]
    rfl

/-- Records behind which there is no new id ask for more ids than there are. -/
theorem lt_reach (h : Puts b rows rs ids rows') {r : Record b.types}
    (hid : nextId? rows'.lastId (b.id r) = none) (after : List (Record b.types)) :
    maxId.toNat < reach rows.lastId.toNat ((rs ++ r :: after).map b.id) := by
  rw [List.map_append, reach_append, ← h.toNat_lastId]
  exact Nat.lt_of_lt_of_le (lt_raise_of_nextId? hid) (le_reach _ _)

/-- Putting records leaves each row that was there its id, and gives one to each record. -/
theorem mem_entries (h : Puts b rows rs ids rows') :
    (∀ id, id ∈ rows.entries → id ∈ rows'.entries) ∧
      ids.length = rs.length ∧ ∀ id ∈ ids, id ≠ 0 ∧ id ∈ rows'.entries := by
  induction h with
  | nil => exact ⟨fun _ h => h, rfl, by simp⟩
  | @cons rows rows' r rs id ids data id_eq encode_eq rest ih =>
    obtain ⟨hkept, hlen, hids⟩ := ih
    have hinsert (k : UInt64) : k ∈ (rows.insert id data).entries ↔ id = k ∨ k ∈ rows.entries := by
      rw [Rows.insert, Std.ExtTreeMap.mem_insert, Std.LawfulEqCmp.compare_eq_iff_eq]
    refine ⟨fun k hk => hkept k ((hinsert k).mpr (.inr hk)), ?_, ?_⟩
    · rw [List.length_cons, List.length_cons, hlen]
    · rw [List.forall_mem_cons]
      exact ⟨⟨ne_zero_of_nextId? id_eq, hkept id ((hinsert id).mpr (.inl rfl))⟩, hids⟩

end Puts

/-- The ids that a call asks for when it puts records of an entity. -/
def ClientCall.asked (entityId : UInt32) : ClientCall → List UInt64
  | .box ⟨b, .put r⟩ => if b.entity.id = entityId then [b.id r] else []
  | .putAll b rs => if b.entity.id = entityId then rs.map b.id else []
  | _ => []

/-- What asking for ids can make of an engine: its last ids are within reach, or an overflow has hit
because more were asked for than there are. -/
inductive MemoryEngine.Raised (asked : UInt32 → List UInt64) (m m' : MemoryEngine) : Prop
  | within (poisoned_eq : m'.poisoned = false)
    (le : ∀ id, (m'.rows id).lastId.toNat ≤ reach (m.rows id).lastId.toNat (asked id))
  | exhausted (id : UInt32) (poisoned_eq : m'.poisoned = true)
    (lt : maxId.toNat < reach (m.rows id).lastId.toNat (asked id))

namespace MemoryEngine.Raised

variable {asked more : UInt32 → List UInt64} {m m' m'' : MemoryEngine}

/-- Rows that stay are within reach of whatever is asked for. -/
theorem of_tables_eq (hp : m'.poisoned = false) (ht : m'.tables = m.tables) :
    m.Raised asked m' := by
  refine .within hp fun id => ?_
  rw [rows, rows, ht]
  exact le_reach _ _

theorem setRows (hp : m.poisoned = false) {id : UInt32} {rows : Rows}
    (h : rows.lastId.toNat ≤ reach (m.rows id).lastId.toNat (asked id)) :
    m.Raised asked (m.setRows id rows) := by
  refine .within hp fun other => ?_
  by_cases ho : other = id
  · subst ho
    rw [rows_setRows]
    exact h
  · rw [rows_setRows_of_ne ho]
    exact le_reach _ _

theorem setRows_lastId (hp : m.poisoned = false) (id : UInt32)
    (entries : Std.ExtTreeMap UInt64 ByteArray) :
    m.Raised asked (m.setRows id ⟨entries, (m.rows id).lastId⟩) := setRows hp (le_reach _ _)

/-- After an overflow it does not matter what is asked for. -/
theorem trans (h : m.Raised asked m') (hsound : m'.poisoned = false → m'.Raised more m'')
    (hpoisoned : m'.poisoned = true → m''.poisoned = true) :
    m.Raised (fun id => asked id ++ more id) m'' := by
  cases h with
  | within poisoned_eq le =>
    cases hsound poisoned_eq with
    | within poisoned_eq' le' =>
      refine .within poisoned_eq' fun id => ?_
      rw [reach_append]
      exact Nat.le_trans (le' id) (reach_mono (le id) _)
    | exhausted id poisoned_eq' lt =>
      refine .exhausted id poisoned_eq' ?_
      rw [reach_append]
      exact Nat.lt_of_lt_of_le lt (reach_mono (le id) _)
  | exhausted id poisoned_eq lt =>
    refine .exhausted id (hpoisoned poisoned_eq) ?_
    rw [reach_append]
    exact Nat.lt_of_lt_of_le lt (le_reach _ _)

end MemoryEngine.Raised

namespace Box

variable (store : Store) {b : Binding} {m : MemoryEngine} {e : ModelEntity}
  (hp : m.poisoned = false) (he : m.entity b.entity.id = .ok e) {asked : UInt32 → List UInt64}
include hp he

theorem raised_put {r : Record b.types} (ha : asked b.entity.id = [b.id r]) :
    m.Raised asked (put MemoryEngine.storage ⟨store, b⟩ r m).2 := by
  cases hid : nextId? (m.rows b.entity.id).lastId (b.id r) with
  | none =>
    rw [put_exhausted store hp he hid]
    refine .exhausted b.entity.id rfl ?_
    rw [ha]
    exact lt_raise_of_nextId? hid
  | some id =>
    cases henc : b.encode r id with
    | error cause =>
      rw [put_of_error store hp he hid henc]
      exact .setRows_lastId hp _ _
    | ok data =>
      rw [put_of_encode store hp he hid henc]
      refine .setRows hp ?_
      rw [ha]
      exact Nat.le_of_eq (toNat_max_nextId? hid)

theorem raised_putAll {rs : List (Record b.types)} (ha : asked b.entity.id = rs.map b.id) :
    m.Raised asked (putAll MemoryEngine.storage ⟨store, b⟩ rs m).2 := by
  rcases Puts.exists_puts b (m.rows b.entity.id) rs with
    ⟨ids, rows, hputs⟩ | ⟨before, r, after, ids, rows, rfl, hputs, hid | ⟨id, cause, hid, henc⟩⟩
  · rw [putAll_of_puts store hp he hputs]
    refine .setRows hp ?_
    rw [ha]
    exact Nat.le_of_eq hputs.toNat_lastId
  · rw [putAll_exhausted store hp he after hputs hid]
    refine .exhausted b.entity.id rfl ?_
    rw [ha]
    exact hputs.lt_reach hid after
  · rw [putAll_of_error store hp he after hputs hid henc]
    exact .setRows_lastId hp _ _

end Box

namespace Client

variable {bindings : List Binding} {c : Client}

/-- An engine stays as an overflow has left it. -/
theorem poisoned_step (store : Store) (hp : c.engine.poisoned = true) (call : ClientCall) :
    (c.step store call).engine.poisoned = true := by
  rcases c.step_cases store call with ⟨id, α, p, write, hm, -⟩ | ⟨queries, hm, -⟩
  · rw [hm, MemoryEngine.withCursor, MemoryEngine.demandSound_of_poisoned hp]
    exact hp
  · rw [hm]
    exact hp

theorem poisoned_run (store : Store) (hp : c.engine.poisoned = true) (calls : List ClientCall) :
    (c.run store calls).engine.poisoned = true := by
  induction calls generalizing c with
  | nil => exact hp
  | cons call calls ih => exact ih (poisoned_step store hp call)

namespace Sound

variable (h : c.Sound bindings) (hp : c.engine.poisoned = false) (store : Store)
include h hp

theorem raised_box {call : Call} (hb : call.1 ∈ bindings) :
    c.engine.Raised (ClientCall.box call).asked (store.perform c.engine call).2 := by
  obtain ⟨b, call⟩ := call
  have he := h.holds.entity b hb
  obtain ⟨shelf, hs⟩ := (h.holds.rows_of_mem hb).exists_stands
  cases call with
  | put r => exact Box.raised_put store hp he (if_pos rfl)
  | get id =>
    simp only [Store.perform, Box.get_eq store hp he hs]
    exact .of_tables_eq hp rfl
  | getAll =>
    simp only [Store.perform, Box.getAll_eq store hp he hs]
    exact .of_tables_eq hp rfl
  | contains id =>
    simp only [Store.perform, Box.contains_eq store hp he hs]
    exact .of_tables_eq hp rfl
  | count =>
    simp only [Store.perform, Box.count_eq store hp he hs]
    exact .of_tables_eq hp rfl
  | remove r =>
    simp only [Store.perform, Box.remove, Box.removeId_eq store hp he hs]
    exact .setRows_lastId hp _ _
  | removeId id =>
    simp only [Store.perform, Box.removeId_eq store hp he hs]
    exact .setRows_lastId hp _ _
  | removeAll =>
    simp only [Store.perform, Box.removeAll_eq store hp he hs]
    exact .setRows_lastId hp _ _

variable (hg : ∀ b ∈ bindings, b.Generated) (ha : ∀ b ∈ bindings, b.entity.Assembled)
include hg ha

/-- What is done through a query asks for no id, and no overflow hits. -/
theorem raised_perform {x : Held} (hx : x ∈ c.held) {q : Query} (hq : x.query = some q)
    (call : QueryCall) {asked : UInt32 → List UInt64} :
    c.engine.Raised asked (q.perform MemoryEngine.storage c.engine call).2 := by
  cases hn : q.handle with
  | none =>
    rw [(Query.perform_of_closed hn _ _ call).2.2]
    exact .of_tables_eq hp rfl
  | some handle =>
    -- Removing is the only call that sets rows, and it keeps the last id.
    cases call with
    | offset n => exact .of_tables_eq hp rfl
    | limit n => exact .of_tables_eq hp rfl
    | find =>
      simp only [Query.perform, Query.find, Query.whileOpen, hn, Query.run,
        MemoryEngine.snd_runCursor_reading]
      exact .of_tables_eq hp rfl
    | findIds =>
      simp only [Query.perform, Query.findIds, Query.whileOpen, hn, Query.run,
        MemoryEngine.snd_runCursor_reading]
      exact .of_tables_eq hp rfl
    | count =>
      simp only [Query.perform, Query.count, Query.whileOpen, hn, Query.runWhole, Query.run]
      split
      · rw [MemoryEngine.snd_runCursor_reading]
        exact .of_tables_eq hp rfl
      · exact .of_tables_eq hp rfl
    | remove =>
      by_cases hz : q.offset = 0 ∧ q.limit = 0
      · cases hs : c.engine.queries.poisoned with
        | true =>
          have hrefused := QueryTable.compiled_of_poisoned hs handle
          have he := h.holds.entity _ (h.compiled x hx q hq).1
          simp only [Query.perform, Query.remove_eq_error hn hp he hrefused hz]
          exact .setRows_lastId hp _ _
        | false =>
          obtain ⟨conditions, hready⟩ := h.ready hg ha hp hs hx hq hn
          simp only [Query.perform, hready.remove_eq hz]
          exact .setRows_lastId hp _ _
      · obtain ⟨-, hrefused⟩ :=
          Query.count_of_paged hn MemoryEngine.storage c.engine (not_and_or.mp hz)
        simp only [Query.perform, hrefused]
        exact .of_tables_eq hp rfl
    | describe =>
      simp only [Query.perform, Query.describe, Query.whileOpen, hn]
      exact .of_tables_eq hp rfl
    | setParameter key arguments =>
      rcases q.setParameter_cases key arguments c.engine with hs | ⟨n, _, _, -, -, -, hs⟩
      · simp only [Query.perform, hs]
        exact .of_tables_eq hp rfl
      · simp only [Query.perform, hs]
        exact .of_tables_eq hp rfl
    | close =>
      obtain ⟨queries, hs, -⟩ := close_cases q c.engine
      simp only [Query.perform, hs]
      exact .of_tables_eq hp rfl

/-- No call takes a last id further than what it asks for, or an overflow hits because it asks for
more ids than there are. -/
theorem raised_step {call : ClientCall} (hon : call.On bindings) :
    c.engine.Raised call.asked (c.step store call).engine := by
  cases call with
  | box call => exact h.raised_box hp store hon
  | putAll b rs => exact Box.raised_putAll store hp (h.holds.entity b hon) (if_pos rfl)
  | query b conditions =>
    rw [Client.step]
    rcases Box.query_cases store b conditions c.engine with
      ⟨e, hq⟩ | ⟨-, hq⟩ | ⟨e, -, -, -, -, -, hq⟩
    all_goals
      rw [hq]
      exact .of_tables_eq hp rfl
  | use place call =>
    rw [Client.step, onQuery]
    rcases hx : c.held[place]? with - | ⟨handle, - | q⟩
    · exact .of_tables_eq hp rfl
    · exact .of_tables_eq hp rfl
    · exact h.raised_perform hp hg ha (List.mem_of_getElem? hx) rfl call
  | drop place =>
    rw [Client.step, onQuery]
    rcases c.held[place]? with - | ⟨handle, - | q⟩
    · exact .of_tables_eq hp rfl
    · exact .of_tables_eq hp rfl
    · obtain ⟨queries, hs, -⟩ := close_cases q c.engine
      simp only [Query.drop, hs]
      exact .of_tables_eq hp rfl

end Sound

/-- The ids that calls ask for, in order, when they put records of an entity. -/
def askedBy (calls : List ClientCall) (entityId : UInt32) : List UInt64 :=
  calls.flatMap (·.asked entityId)

/-- Calls take no last id further than what they ask for, or an overflow hits because they ask for
more ids than there are. -/
theorem Sound.raised_run (h : c.Sound bindings) (hg : ∀ b ∈ bindings, b.Generated)
    (ha : ∀ b ∈ bindings, b.entity.Assembled) (hn : (bindings.map fun b => b.entity.id).Nodup)
    (hp : c.engine.poisoned = false) (store : Store) {calls : List ClientCall}
    (hon : ∀ call ∈ calls, call.On bindings) :
    c.engine.Raised (askedBy calls) (c.run store calls).engine := by
  induction calls generalizing c with
  | nil => exact .of_tables_eq hp rfl
  | cons call calls ih =>
    rw [List.forall_mem_cons] at hon
    have hsound := h.step hn (fun b hb => (hg b hb).wellFormed (ha b hb)) store hon.1
    exact (h.raised_step hp store hg ha hon.1).trans (fun hp' => ih hsound hp' hon.2)
      fun hp' => poisoned_run store hp' calls

section

variable {last : Option IdUid} {model : Model} (hg : ∀ b ∈ bindings, b.Generated)
  (ha : ∀ b ∈ bindings, b.entity.Assembled) (hm : Binding.Builds bindings last model)
  (store : Store) {calls : List ClientCall} (hon : ∀ call ∈ calls, call.On bindings)
include hg ha hm hon

theorem raised_opened :
    (MemoryEngine.opened model).Raised (askedBy calls)
      (run store ⟨.opened model, []⟩ calls).engine :=
  (sound_opened hm).raised_run hg ha (Binding.of_builds hm).1 rfl store hon

/-- No overflow hits as long as no more ids are asked for than there are. -/
theorem sound_of_reach (hreach : ∀ id, reach 0 (askedBy calls id) ≤ maxId.toNat) :
    (run store ⟨.opened model, []⟩ calls).engine.poisoned = false := by
  cases raised_opened hg ha hm store hon with
  | within poisoned_eq le => exact poisoned_eq
  | exhausted id poisoned_eq lt =>
    rw [MemoryEngine.rows_opened] at lt
    exact absurd (hreach id) (Nat.not_le_of_lt lt)

theorem toNat_lastId_le {id : UInt32}
    (hp : (run store ⟨.opened model, []⟩ calls).engine.poisoned = false) :
    ((run store ⟨.opened model, []⟩ calls).engine.rows id).lastId.toNat ≤
      reach 0 (askedBy calls id) := by
  cases raised_opened hg ha hm store hon with
  | within poisoned_eq le =>
    have hle := le id
    rw [MemoryEngine.rows_opened] at hle
    exact hle
  | exhausted id poisoned_eq lt =>
    rw [hp] at poisoned_eq
    cases poisoned_eq

end

end Client

end RecordStore

import RecordStore.Proofs.Query.Lifecycle
import RecordStore.Proofs.Store.Holdings

/-! The operations of a query describe one set of records: pages of it, its size, and its
removal. -/
namespace RecordStore

/-- What removing some rows of an entity leaves of an engine. -/
structure MemoryEngine.Removed (entityId : UInt32) (ids : List UInt64) (m m' : MemoryEngine) :
    Prop where
  getElem?_eq : ∀ id : UInt64, (m'.rows entityId).entries[id]? =
    if id ∈ ids then none else (m.rows entityId).entries[id]?
  lastId_eq : (m'.rows entityId).lastId = (m.rows entityId).lastId
  rows_of_ne : ∀ other, other ≠ entityId → m'.rows other = m.rows other
  queries_eq : m'.queries = m.queries

/-- Calls on a query that a cursor does not find fail as looking for it does. -/
theorem Cursor.queried_error {c : Cursor} {handle : UInt64} {x : EngineError}
    (h : c.queries.compiled handle = .error x) :
    (∀ offset limit, c.step (.queryFind handle offset limit) = (.error (.error x), c)) ∧
      c.step (.queryFindIds handle) = (.error (.error x), c) ∧
      c.step (.queryCount handle) = (.error (.error x), c) ∧
      c.step (.queryRemove handle) = (.error (.error x), c) := by
  have hmatching : c.matching handle = .error (.error x) := by
    rw [matching, query, h]
    rfl
  refine ⟨fun offset limit => ?_, ?_, ?_, ?_⟩
  all_goals simp only [step, queryRemove, hmatching, Except.map]

namespace Query

/-- The cursor that operations run on. -/
abbrev cursor (q : Query) (m : MemoryEngine) (write : Bool) : Cursor :=
  .start q.binding.modelEntity m.queries write (m.rows q.binding.entity.id)

/-- The records that meet conditions with their ids, in the order of the ids. -/
abbrev found (q : Query) (m : MemoryEngine) (conditions : List Condition) :
    List (UInt64 × Record q.binding.types) :=
  q.binding.select conditions (m.rows q.binding.entity.id)

/-- The operations answer by the records found. -/
structure Serves (q : Query) (m : MemoryEngine) (found : List (UInt64 × Record q.binding.types)) :
    Prop where
  findIds_eq : q.findIds MemoryEngine.storage m =
    (.ok (Cursor.page q.offset q.limit (found.map (·.1))), m)
  find_eq : q.find MemoryEngine.storage m =
    (.ok (Cursor.page q.offset q.limit (found.map (·.2))), m)
  count_eq : q.offset = 0 ∧ q.limit = 0 →
    ∃ n, q.count MemoryEngine.storage m = (.ok n, m) ∧ n.toNat = found.length
  remove_eq : q.offset = 0 ∧ q.limit = 0 →
    ∃ n m', q.remove MemoryEngine.storage m = (.ok n, m') ∧ n.toNat = found.length ∧
      m.Removed q.binding.entity.id (found.map (·.1)) m' ∧
      q.findIds MemoryEngine.storage m' = (.ok [], m')

/-- The query is open on a sound engine, whose rows hold records of its binding. -/
structure Ready (q : Query) (m : MemoryEngine) (handle : UInt64) (conditions : List Condition) :
    Prop where
  handle_eq : q.handle = some handle
  sound : m.poisoned = false
  entity : m.entity q.binding.entity.id = .ok q.binding.modelEntity
  rows : (m.rows q.binding.entity.id).All q.binding.Stores
  compiled : m.queries.compiled handle = .ok ⟨q.binding.entity.id, conditions⟩
  accepted : ∀ c ∈ conditions, q.binding.modelEntity.accept c = .ok ()
  wellFormed : q.binding.WellFormed
  storedByType : q.binding.StoredByType

namespace Ready

variable {q : Query} {m : MemoryEngine} {handle : UInt64} {conditions : List Condition}

/-- The options of a query have no part in it. -/
theorem paged (h : q.Ready m handle conditions) (offset limit : UInt64) :
    ((q.withOffset offset).withLimit limit).Ready m handle conditions :=
  ⟨h.handle_eq, h.sound, h.entity, h.rows, h.compiled, h.accepted, h.wellFormed, h.storedByType⟩

section

variable (h : q.Ready m handle conditions)
include h

theorem matching_eq (write : Bool) :
    (q.cursor m write).matching handle =
      .ok ((m.rows q.binding.entity.id).entries.toList.filter fun row =>
        q.binding.admits conditions row.2) :=
  Binding.matching_eq h.wellFormed h.storedByType rfl h.accepted h.rows h.compiled

theorem run_request_eq {α : Type} (write : Bool) (call : CursorCall)
    (next : call.Reply → CursorProgram StoreError α) {reply : call.Reply}
    {result : Except StoreError α} {c : Cursor}
    (hstep : (q.cursor m write).step call = (.ok reply, c)) (hnext : next reply = .done result) :
    q.run MemoryEngine.storage write (.request call next) m =
      (.ofExcept result,
        if write then
          m.setRows q.binding.entity.id
            (c.rows.settled (m.rows q.binding.entity.id) result)
        else m) :=
  MemoryEngine.runCursor_request_eq write call next h.sound h.entity hstep hnext

theorem find_eq :
    q.find MemoryEngine.storage m =
      (.ok (Cursor.page q.offset q.limit ((q.found m conditions).map (·.2))), m) := by
  have hstep : (q.cursor m false).step (.queryFind handle q.offset q.limit) =
      (.ok (Cursor.page q.offset q.limit
        (((m.rows q.binding.entity.id).entries.toList.filter fun row =>
          q.binding.admits conditions row.2).map (·.2))), q.cursor m false) := by
    simp only [Cursor.step, h.matching_eq false, Except.map]
  have hnext : (.done ((q.binding.decodeAll (Cursor.page q.offset q.limit
      (((m.rows q.binding.entity.id).entries.toList.filter fun row =>
        q.binding.admits conditions row.2).map (·.2)))).mapError .read) :
      CursorProgram StoreError (List (Record q.binding.types))) =
        .done (.ok (Cursor.page q.offset q.limit ((q.found m conditions).map (·.2)))) := by
    rw [Binding.decodeAll_page]
    rfl
  rw [find, whileOpen, h.handle_eq]
  exact h.run_request_eq false (.queryFind handle q.offset q.limit)
    (fun buffers => .done ((q.binding.decodeAll buffers).mapError .read)) hstep hnext

theorem findIds_eq :
    q.findIds MemoryEngine.storage m =
      (.ok (Cursor.page q.offset q.limit ((q.found m conditions).map (·.1))), m) := by
  have hstep : (q.cursor m false).step (.queryFindIds handle) =
      (.ok ((q.found m conditions).map (·.1)), q.cursor m false) := by
    simp only [Cursor.step, h.matching_eq false, Except.map, Binding.ids_admitted]
  have hids : q.whileOpen (fun handle => q.run MemoryEngine.storage false
      (.answer (.queryFindIds handle))) m = (.ok ((q.found m conditions).map (·.1)), m) := by
    rw [whileOpen, h.handle_eq]
    exact h.run_request_eq false (.queryFindIds handle) (fun ids => .done (.ok ids)) hstep rfl
  have hlen : ((q.found m conditions).map (·.1)).length < UInt64.size := by
    rw [List.length_map]
    exact Binding.length_select h.rows
  rw [findIds, hids, ← paginate_eq hlen]
  rfl

variable (hz : q.offset = 0 ∧ q.limit = 0)
include hz

theorem count_eq :
    q.count MemoryEngine.storage m = (.ok (UInt64.ofNat (q.found m conditions).length), m) := by
  have hstep : (q.cursor m false).step (.queryCount handle) =
      (.ok (UInt64.ofNat (q.found m conditions).length), q.cursor m false) := by
    simp only [Cursor.step, h.matching_eq false, Except.map, Binding.length_admitted]
  rw [count, whileOpen, h.handle_eq]
  simp only [runWhole, if_pos hz]
  exact h.run_request_eq false (.queryCount handle) (fun n => .done (.ok n)) hstep rfl

/-- The rows that are admitted go, and all others stay. -/
theorem remove_eq :
    q.remove MemoryEngine.storage m =
      (.ok (UInt64.ofNat (q.found m conditions).length), m.setRows q.binding.entity.id
        ⟨(m.rows q.binding.entity.id).entries.filter fun _ bytes =>
          !q.binding.admits conditions bytes, (m.rows q.binding.entity.id).lastId⟩) := by
  obtain ⟨c, hstep, hrows⟩ : ∃ c, (q.cursor m true).step (.queryRemove handle) =
      (.ok (UInt64.ofNat (q.found m conditions).length), c) ∧
        c.rows = ⟨(m.rows q.binding.entity.id).entries.filter fun _ bytes =>
          !q.binding.admits conditions bytes, (m.rows q.binding.entity.id).lastId⟩ := by
    -- The rows go one by one; together that is one filter.
    obtain ⟨-, -, -, hrows⟩ := (q.cursor m true).frame_foldl_discard
      ((m.rows q.binding.entity.id).entries.toList.filter fun row =>
        q.binding.admits conditions row.2)
    refine ⟨_, ?_, hrows.trans ?_⟩
    · simp only [Cursor.step, Cursor.queryRemove, h.matching_eq true,
        Cursor.demandWritable_ok (c := q.cursor m true) rfl, Binding.length_admitted]
    · exact congrArg (Rows.mk · _) (Cursor.foldl_erase_filter _ fun row =>
        q.binding.admits conditions row.2)
  rw [remove, whileOpen, h.handle_eq]
  simp only [runWhole, if_pos hz]
  refine (h.run_request_eq true (.queryRemove handle) (fun n => .done (.ok n)) hstep rfl).trans ?_
  rw [← hrows]
  rfl

end

theorem setRows (h : q.Ready m handle conditions) {rows : Rows}
    (hrows : rows.All q.binding.Stores) :
    q.Ready (m.setRows q.binding.entity.id rows) handle conditions := by
  refine { h with rows := ?_ }
  rw [MemoryEngine.rows_setRows]
  exact hrows

/-- Without the rows that are admitted there is nothing left to find. -/
theorem removed (h : q.Ready m handle conditions) :
    let rows : Rows := ⟨(m.rows q.binding.entity.id).entries.filter fun _ bytes =>
      !q.binding.admits conditions bytes, (m.rows q.binding.entity.id).lastId⟩
    q.Ready (m.setRows q.binding.entity.id rows) handle conditions ∧
      q.found (m.setRows q.binding.entity.id rows) conditions = [] := by
  intro rows
  have hkept {id : UInt64} {bytes : ByteArray} (hk : rows.entries[id]? = some bytes) :
      (m.rows q.binding.entity.id).entries[id]? = some bytes ∧
        q.binding.admits conditions bytes = false := by
    rw [Std.ExtTreeMap.getElem?_filter'] at hk
    simpa using Option.filter_eq_some_iff.mp hk
  refine ⟨h.setRows fun id bytes hk => h.rows id bytes (hkept hk).1, ?_⟩
  · rw [found, MemoryEngine.rows_setRows, ← List.map_eq_nil_iff (f := (·.1)),
      List.eq_nil_iff_forall_not_mem]
    intro id hid
    obtain ⟨bytes, hk, hadmits⟩ := Binding.mem_ids_select.mp hid
    rw [(hkept hk).2] at hadmits
    cases hadmits

theorem serves (h : q.Ready m handle conditions) : q.Serves m (q.found m conditions) := by
  have hlen : (UInt64.ofNat (q.found m conditions).length).toNat =
      (q.found m conditions).length :=
    UInt64.toNat_ofNat_of_lt' (Binding.length_select h.rows)
  refine ⟨h.findIds_eq, h.find_eq, fun hz => ⟨_, h.count_eq hz, hlen⟩, ?_⟩
  intro hz
  obtain ⟨hready, hnone⟩ := h.removed
  refine ⟨_, _, h.remove_eq hz, hlen, ⟨?_, ?_, ?_, rfl⟩, ?_⟩
  · intro id
    rw [MemoryEngine.rows_setRows, Std.ExtTreeMap.getElem?_filter']
    by_cases hid : id ∈ (q.found m conditions).map (·.1)
    · obtain ⟨bytes, hk, hadmits⟩ := Binding.mem_ids_select.mp hid
      simp [if_pos hid, hk, hadmits]
    · rw [if_neg hid]
      cases hk : (m.rows q.binding.entity.id).entries[id]? with
      | none => rfl
      | some bytes =>
        have hadmits : q.binding.admits conditions bytes = false :=
          Bool.eq_false_iff.mpr fun ha => hid (Binding.mem_ids_select.mpr ⟨bytes, hk, ha⟩)
        simp [hadmits]
  · rw [MemoryEngine.rows_setRows]
  · exact fun other ho => MemoryEngine.rows_setRows_of_ne ho
  · rw [hready.findIds_eq, hnone]
    simp [Cursor.page]

end Ready

/-- Every operation is refused with one error, and nothing changes. -/
structure Refuses (q : Query) (m : MemoryEngine) (x : EngineError) : Prop where
  find_eq : q.find MemoryEngine.storage m = (.error (.error (.engine x)), m)
  findIds_eq : q.findIds MemoryEngine.storage m = (.error (.error (.engine x)), m)
  count_eq : q.offset = 0 ∧ q.limit = 0 →
    q.count MemoryEngine.storage m = (.error (.error (.engine x)), m)
  remove_eq : q.offset = 0 ∧ q.limit = 0 →
    q.remove MemoryEngine.storage m = (.error (.error (.engine x)), m)

section

variable {q : Query} {m : MemoryEngine} {handle : UInt64} {x : EngineError}
  (hq : q.handle = some handle)
include hq

/-- An engine that an overflow has hit refuses every operation. -/
theorem refuses_of_poisoned (hp : m.poisoned = true) : q.Refuses m .poisoned := by
  have hrun {α : Type} (write : Bool) (p : CursorProgram StoreError α) :
      q.run MemoryEngine.storage write p m = (.error (.error (.engine .poisoned)), m) :=
    MemoryEngine.runCursor_refused (MemoryEngine.demandSound_of_poisoned hp _) write p
  refine ⟨?_, ?_, fun hz => ?_, fun hz => ?_⟩
  · rw [find, whileOpen, hq]
    exact hrun false _
  · rw [findIds, whileOpen, hq]
    simp only [hrun, Except.map]
  · rw [count, whileOpen, hq]
    simp only [runWhole, if_pos hz, hrun]
  · rw [remove, whileOpen, hq]
    simp only [runWhole, if_pos hz, hrun]

variable (hp : m.poisoned = false)
  (he : m.entity q.binding.entity.id = .ok q.binding.modelEntity)
  (hx : m.queries.compiled handle = .error x)
include hp he hx

theorem remove_eq_error (hz : q.offset = 0 ∧ q.limit = 0) :
    q.remove MemoryEngine.storage m = (.error (.error (.engine x)),
      m.setRows q.binding.entity.id (m.rows q.binding.entity.id)) := by
  rw [remove, whileOpen, hq]
  simp only [runWhole, if_pos hz]
  exact MemoryEngine.runCursor_request_error true hp he
    (Cursor.queried_error (c := q.cursor m true) hx).2.2.2 _

/-- Where the table of queries finds none under the handle, every operation is refused. -/
theorem refuses_of_compiled
    (hself : m.setRows q.binding.entity.id (m.rows q.binding.entity.id) = m) : q.Refuses m x := by
  obtain ⟨hfind, hids, hcount, -⟩ := Cursor.queried_error (c := q.cursor m false) hx
  have hrun {α : Type} {call : CursorCall} (next : call.Reply → CursorProgram StoreError α)
      (hstep : (q.cursor m false).step call = (.error (.error x), q.cursor m false)) :
      q.run MemoryEngine.storage false (.request call next) m = (.error (.error (.engine x)), m) :=
    MemoryEngine.runCursor_request_error false hp he hstep next
  refine ⟨?_, ?_, fun hz => ?_, fun hz => ?_⟩
  · rw [find, whileOpen, hq]
    exact hrun _ (hfind q.offset q.limit)
  · have hanswer := hrun (fun ids : List UInt64 => .done (.ok ids)) hids
    rw [findIds, whileOpen, hq]
    simp only [CursorProgram.answer, hanswer, Except.map]
  · rw [count, whileOpen, hq]
    simp only [runWhole, if_pos hz]
    exact hrun _ hcount
  · rw [remove_eq_error hq hp he hx hz, hself]

end

end Query

/-- Rows that hold records are those of a shelf. -/
theorem Rows.All.exists_stands {b : Binding} {rows : Rows} (h : rows.All b.Stores) :
    ∃ shelf, Stands b rows shelf := by
  refine ⟨⟨rows.entries.filterMap fun _ bytes => (b.decode bytes).toOption, rows.lastId⟩, ?_, rfl⟩
  apply Std.ExtTreeMap.ext_getElem?
  intro k
  rw [Std.ExtTreeMap.getElem?_map, Std.ExtTreeMap.getElem?_map, Std.ExtTreeMap.getElem?_filterMap']
  cases hk : rows.entries[k]? with
  | none => rfl
  | some bytes =>
    obtain ⟨-, r, hd⟩ := h k bytes hk
    simp [hd, Except.toOption]

/-- A record is got exactly if the row under its id holds it. -/
theorem Box.get_eq_iff (store : Store) {b : Binding} {m : MemoryEngine} {e : ModelEntity}
    (hp : m.poisoned = false) (he : m.entity b.entity.id = .ok e)
    (hrows : (m.rows b.entity.id).All b.Stores) {id : UInt64} {r : Record b.types} :
    Box.get MemoryEngine.storage ⟨store, b⟩ id m = (.ok (some r), m) ↔
      ∃ bytes, (m.rows b.entity.id).entries[id]? = some bytes ∧ b.decode bytes = .ok r := by
  obtain ⟨shelf, hs⟩ := hrows.exists_stands
  have hrow := hs.decode_getElem? id
  rw [Box.get_eq store hp he hs id]
  simp only [Prod.mk.injEq, Except.ok.injEq, and_true]
  rw [← Option.map_eq_some_iff (f := b.decode), hrow]
  cases shelf.records[id]? <;> simp

/-- A query that is held and open is ready, unless an overflow has hit the engine or its queries. -/
theorem Client.Sound.ready {bindings : List Binding} {c : Client} (h : c.Sound bindings)
    (hg : ∀ b ∈ bindings, b.Generated) (ha : ∀ b ∈ bindings, b.entity.Assembled)
    (hp : c.engine.poisoned = false) (hs : c.engine.queries.poisoned = false) {x : Held}
    (hx : x ∈ c.held) {q : Query} (hq : x.query = some q) {handle : UInt64}
    (hn : q.handle = some handle) :
    ∃ conditions, q.Ready c.engine handle conditions := by
  obtain ⟨hb, hcompiled⟩ := h.compiled x hx q hq
  obtain ⟨conditions, hc⟩ := hcompiled handle hn
  exact ⟨conditions, hn, hp, h.holds.entity _ hb, h.holds.rows_of_mem hb,
    QueryTable.compiled_eq_ok.mpr ⟨hs, hc⟩, h.holds.accepted handle _ hc _ hb rfl,
    (hg _ hb).wellFormed (ha _ hb), (hg _ hb).storedByType⟩

/-- Whatever is called on a store of generated bindings in which the slots of the properties are
their places, the operations of a query that is open on it describe one set: the records that are
got from the box and meet the conditions that the engine keeps for the query. Counting and removing
a page is refused. After an overflow of the ids everything is, and so it is after one of the
handles, which takes as many calls that open a query as there are numbers of 64 bits; nothing
changes then. -/
theorem query_operations {bindings : List Binding} {last : Option IdUid} {model : Model}
    (hg : ∀ b ∈ bindings, b.Generated) (ha : ∀ b ∈ bindings, b.entity.Assembled)
    (hm : Binding.Builds bindings last model) (store : Store) {calls : List ClientCall}
    (hon : ∀ call ∈ calls, call.On bindings) {x : Held}
    (hx : x ∈ (Client.run store ⟨.opened model, []⟩ calls).held) {q : Query}
    (hq : x.query = some q) (hopen : q.isClosed = false) :
    let m := (Client.run store ⟨.opened model, []⟩ calls).engine
    (∀ offset limit : UInt64, offset ≠ 0 ∨ limit ≠ 0 →
      let p := (q.withOffset offset).withLimit limit
      p.count MemoryEngine.storage m = (.error (.error (.pagedOperation .count)), m) ∧
        p.remove MemoryEngine.storage m = (.error (.error (.pagedOperation .remove)), m)) ∧
    (m.poisoned = false → m.queries.poisoned = false → ∃ (conditions : List Condition)
        (found : List (UInt64 × Record q.binding.types)),
      m.queries.compiled x.handle = .ok ⟨q.binding.entity.id, conditions⟩ ∧
        (found.map (·.1)).Pairwise (· < ·) ∧
        (∀ id r, (id, r) ∈ found ↔
          Box.get MemoryEngine.storage ⟨store, q.binding⟩ id m = (.ok (some r), m) ∧
            ∀ c ∈ conditions, q.binding.meets r c = true) ∧
        ∀ offset limit, ((q.withOffset offset).withLimit limit).Serves m found) ∧
    (∀ offset limit, (m.poisoned = true →
        ((q.withOffset offset).withLimit limit).Refuses m .poisoned) ∧
      (m.poisoned = false → m.queries.poisoned = true →
        ((q.withOffset offset).withLimit limit).Refuses m .queriesPoisoned)) ∧
    (m.queries.poisoned = true → UInt64.size ≤ calls.countP (·.requests)) := by
  intro m
  have hsound := Client.sound_run hg ha hm store hon
  obtain ⟨handle, hn⟩ : ∃ handle, q.handle = some handle := by
    cases hn : q.handle with
    | none => simp [Query.isClosed, hn] at hopen
    | some handle => exact ⟨handle, rfl⟩
  refine ⟨?_, ?_, fun offset limit => ⟨?_, ?_⟩, Client.size_le_of_poisoned model store calls⟩
  · intro offset limit hpaged
    exact ((q.withOffset offset).withLimit limit).count_of_paged hn MemoryEngine.storage m hpaged
  · intro hp hs
    obtain ⟨conditions, hready⟩ := hsound.ready hg ha hp hs hx hq hn
    have hhandle := hsound.tracks.handle_eq x hx q hq handle hn
    subst hhandle
    refine ⟨conditions, q.found m conditions, hready.compiled, Binding.pairwise_select .., ?_, ?_⟩
    · intro id r
      rw [Box.get_eq_iff store hp hready.entity hready.rows]
      exact Binding.mem_select
    · exact fun offset limit => (hready.paged offset limit).serves
  · exact Query.refuses_of_poisoned (q := (q.withOffset offset).withLimit limit) hn
  · intro hp hs
    obtain ⟨hb, -⟩ := hsound.compiled x hx q hq
    have hnumbered := Client.numbered_run (c := ⟨.opened model, []⟩) store
      (MemoryEngine.numbered_opened model) calls
    exact Query.refuses_of_compiled (q := (q.withOffset offset).withLimit limit) hn hp
      (hsound.holds.entity _ hb) (QueryTable.compiled_of_poisoned hs handle)
      (hnumbered.setRows_self (hm.entity?_eq hb))

theorem query_operations_note :
    ∃ (b : Binding) (model : Model) (calls : List ClientCall) (q : Query)
      (found : List (UInt64 × Record q.binding.types)), Binding.ofEntity Schema.note = .ok b ∧
        ((q.withOffset 0).withLimit 0).Serves
          (Client.run ⟨model, false⟩ ⟨.opened model, []⟩ calls).engine found ∧
        found.length = 1 := by
  obtain ⟨b, model, hb, hg, ha, hm, hcheck⟩ := Schema.exists_note_model
    (fun b model => b.types = Schema.faint.map Value.type ∧
      ∀ ht : Schema.faint.map Value.type = b.types,
        let c := Client.run ⟨model, false⟩ ⟨.opened model, []⟩
          [.box ⟨b, .put ⟨Schema.faint, ht⟩⟩, .query b [⟨⟨1, 2⟩, .stringEquals "a"⟩],
            .use 0 (.limit 3)]
        c.engine.poisoned = false ∧ c.engine.queries.poisoned = false ∧
          c.held.any fun x : Held => x.query.any fun q : Query => q.isClosed = false ∧
            (((q.withOffset 0).withLimit 0).count MemoryEngine.storage c.engine).1 = .ok 1)
    (by decide +kernel)
  obtain ⟨ht, hrun⟩ := of_decide_eq_true hcheck
  obtain ⟨hsound, hqueries, hheld⟩ := hrun ht.symm
  obtain ⟨x, hx, hany⟩ := List.any_eq_true.mp hheld
  obtain ⟨q, hq, hany⟩ := (Option.any_eq_true ..).mp hany
  obtain ⟨hopen, hcount⟩ := of_decide_eq_true hany
  obtain ⟨-, h, -⟩ := query_operations (by simpa using hg) (by simpa using ha) hm ⟨model, false⟩
    (by simp [ClientCall.On]) hx hq hopen
  obtain ⟨conditions, found, -, -, -, hserves⟩ := h hsound hqueries
  obtain ⟨n, hn, hlen⟩ := (hserves 0 0).count_eq ⟨rfl, rfl⟩
  rw [hn] at hcount
  cases hcount
  exact ⟨b, model, _, q, found, hb, hserves 0 0, hlen.symm⟩

/-- A stamp without a mark, under an id that no character has. -/
def surrogate : List Value := [.char '\x00', .u64 55296]

/-- A query finds the id of a stamp and fails to find the stamp: its id is read for its mark. -/
theorem find_fails_stamp :
    ∃ (b : Binding) (model : Model) (r : Record b.types) (q : Query), b.Generated ∧
      b.entity = Schema.stamp ∧ Binding.Builds [b] none model ∧ r.values = surrogate ∧
      let c := Client.run ⟨model, false⟩ ⟨.opened model, []⟩ [.box ⟨b, .put r⟩, .query b []]
      (∃ x ∈ c.held, x.query = some q) ∧ q.isClosed = false ∧ c.engine.poisoned = false ∧
        c.engine.queries.poisoned = false ∧
        (q.findIds MemoryEngine.storage c.engine).1 = .ok [55296] ∧
        (q.find MemoryEngine.storage c.engine).1 =
          .error (.error (.read (.invalidChar 4 55296))) := by
  obtain ⟨b, model, hgenerated, he, hm, hcheck⟩ := Schema.exists_stamp_model
    (fun b model => ∃ typed : surrogate.map Value.type = b.types,
      let c := Client.run ⟨model, false⟩ ⟨.opened model, []⟩
        [.box ⟨b, .put ⟨surrogate, typed⟩⟩, .query b []]
      c.engine.poisoned = false ∧ c.engine.queries.poisoned = false ∧
        c.held.any fun x : Held => x.query.any fun q : Query => q.isClosed = false ∧
          (q.findIds MemoryEngine.storage c.engine).1 = .ok [55296] ∧
          (q.find MemoryEngine.storage c.engine).1 =
            .error (.error (.read (.invalidChar 4 55296))))
    (by decide +kernel)
  obtain ⟨typed, hsound, hqueries, hheld⟩ := of_decide_eq_true hcheck
  obtain ⟨x, hx, hany⟩ := List.any_eq_true.mp hheld
  obtain ⟨q, hq, hany⟩ := (Option.any_eq_true ..).mp hany
  obtain ⟨hopen, hids, hfind⟩ := of_decide_eq_true hany
  exact ⟨b, model, ⟨surrogate, typed⟩, q, hgenerated, he, hm, rfl, ⟨x, hx, hq⟩, hopen, hsound,
    hqueries, hids, hfind⟩

end RecordStore

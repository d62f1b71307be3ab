import RecordStore.Proofs.Store.Exhaustion

/-! Queries that are open do not fail, unless an overflow has hit the engine or its queries. -/
namespace RecordStore

open Buffer

namespace Query

/-- All operations of the query come to an answer; only removing changes the engine. -/
structure Succeeds (q : Query) (m : MemoryEngine) : Prop where
  find : ∃ records, q.find MemoryEngine.storage m = (.ok records, m)
  findIds : ∃ ids, q.findIds MemoryEngine.storage m = (.ok ids, m)
  count : q.offset = 0 ∧ q.limit = 0 → ∃ n, q.count MemoryEngine.storage m = (.ok n, m)
  remove : q.offset = 0 ∧ q.limit = 0 → ∃ n m', q.remove MemoryEngine.storage m = (.ok n, m')

/-- No step of answering the query fails: the engine knows its entity, and under its handle the
conditions; every row has a table on which each condition comes out, and holds a record. -/
structure Evaluates (q : Query) (m : MemoryEngine) (handle : UInt64) (conditions : List Condition) :
    Prop where
  entity : m.entity q.binding.entity.id = .ok q.binding.modelEntity
  compiled : m.queries.compiled handle = .ok ⟨q.binding.entity.id, conditions⟩
  table : ∀ (id : UInt64) (bytes : ByteArray),
    (m.rows q.binding.entity.id).entries[id]? = some bytes →
      ∃ table, Table.root bytes = .ok table ∧
        ∀ c ∈ conditions, ∃ holds, q.binding.modelEntity.satisfies table c = .ok holds
  record : ∀ (id : UInt64) (bytes : ByteArray),
    (m.rows q.binding.entity.id).entries[id]? = some bytes → ∃ r, q.binding.decode bytes = .ok r

namespace Ready

variable {q : Query} {m : MemoryEngine} {handle : UInt64} {conditions : List Condition}

theorem succeeds (h : q.Ready m handle conditions) : q.Succeeds m :=
  ⟨⟨_, h.find_eq⟩, ⟨_, h.findIds_eq⟩, fun hz => ⟨_, h.count_eq hz⟩,
    fun hz => ⟨_, _, h.remove_eq hz⟩⟩

theorem evaluates (h : q.Ready m handle conditions) : q.Evaluates m handle conditions := by
  refine ⟨h.entity, h.compiled, ?_, fun id bytes hrow => (h.rows id bytes hrow).2⟩
  intro id bytes hrow
  obtain ⟨-, r, hd⟩ := h.rows id bytes hrow
  obtain ⟨table, hroot, hread⟩ := bind_eq_ok.mp hd
  exact ⟨table, hroot, fun c hc =>
    ⟨_, Binding.satisfies_eq h.wellFormed h.storedByType hread (h.accepted c hc)⟩⟩

end Ready

end Query

/-- Whatever was called on a store of generated bindings in which the slots of the properties are
their places, every query that is open on it succeeds, and no step of answering it can fail, unless
an overflow has hit the engine or its queries; and none has as long as no more ids and no more
handles were asked for than there are. -/
theorem open_queries_succeed {bindings : List Binding} {last : Option IdUid} {model : Model}
    (hg : ∀ b ∈ bindings, b.Generated) (ha : ∀ b ∈ bindings, b.entity.Assembled)
    (hm : Binding.Builds bindings last model) (store : Store) {calls : List ClientCall}
    (hon : ∀ call ∈ calls, call.On bindings) {x : Held}
    (hx : x ∈ (Client.run store ⟨.opened model, []⟩ calls).held) {q : Query}
    (hq : x.query = some q) (hopen : q.isClosed = false) :
    let m := (Client.run store ⟨.opened model, []⟩ calls).engine
    (m.poisoned = false → m.queries.poisoned = false →
      q.Succeeds m ∧ ∃ conditions, q.Evaluates m x.handle conditions) ∧
    ((∀ entityId, reach 0 (Client.askedBy calls entityId) ≤ maxId.toNat) →
      m.poisoned = false) ∧
    (calls.countP (·.requests) < UInt64.size → m.queries.poisoned = false) := by
  intro m
  have hsound := Client.sound_run hg ha hm store hon
  obtain ⟨handle, hn⟩ : ∃ handle, q.handle = some handle := by
    cases hn : q.handle with
    | none => simp [Query.isClosed, hn] at hopen
    | some handle => exact ⟨handle, rfl⟩
  refine ⟨fun hp hs => ?_, Client.sound_of_reach hg ha hm store hon, fun hfew => ?_⟩
  swap
  · exact Bool.eq_false_iff.mpr fun hs =>
      Nat.not_lt_of_le (Client.size_le_of_poisoned model store calls hs) hfew
  obtain ⟨conditions, hready⟩ := hsound.ready hg ha hp hs hx hq hn
  have hhandle := hsound.tracks.handle_eq x hx q hq handle hn
  subst hhandle
  exact ⟨hready.succeeds, conditions, hready.evaluates⟩

theorem open_queries_succeed_note :
    ∃ (b : Binding) (model : Model) (calls : List ClientCall) (q : Query),
      Binding.ofEntity Schema.note = .ok b ∧
        .use 0 (.setParameter ⟨1, 2⟩ (.strings ["a"])) ∈ calls ∧
        q.Succeeds (Client.run ⟨model, false⟩ ⟨.opened model, []⟩ calls).engine := by
  obtain ⟨b, model, hb, hg, ha, hm, hcheck⟩ := Schema.exists_note_model
    (fun b model => b.types = Schema.faint.map Value.type ∧
      ∀ ht : Schema.faint.map Value.type = b.types,
        let calls : List ClientCall := [.box ⟨b, .put ⟨Schema.faint, ht⟩⟩,
          .query b [⟨⟨1, 2⟩, .stringEquals "b"⟩],
          .use 0 (.setParameter ⟨1, 2⟩ (.strings ["a"])),
          .use 0 (.setParameter ⟨1, 3⟩ (.strings ["a"]))]
        reach 0 (Client.askedBy calls b.entity.id) ≤ maxId.toNat ∧
          (Client.run ⟨model, false⟩ ⟨.opened model, []⟩ calls).held.any
            fun x : Held => x.query.any fun q : Query => q.isClosed = false)
    (by decide +kernel)
  obtain ⟨ht, hrun⟩ := of_decide_eq_true hcheck
  obtain ⟨hreach, hheld⟩ := hrun ht.symm
  obtain ⟨x, hx, hany⟩ := List.any_eq_true.mp hheld
  obtain ⟨q, hq, hopen⟩ := (Option.any_eq_true ..).mp hany
  obtain ⟨hsucceeds, hsound, hqueries⟩ := open_queries_succeed (by simpa using hg)
    (by simpa using ha) hm ⟨model, false⟩ (by simp [ClientCall.On]) hx hq (of_decide_eq_true hopen)
  refine ⟨b, model, _, q, hb, ?_, (hsucceeds (hsound fun entityId => ?_) (hqueries ?_)).1⟩
  · simp
  · by_cases he : b.entity.id = entityId
    · rw [← he]
      exact hreach
    · simp [Client.askedBy, ClientCall.asked, he, reach]
  · simp [ClientCall.requests, UInt64.size]

/-- A query that is open when an overflow hits finds nothing from then on. -/
theorem open_query_fails_note :
    ∃ (b : Binding) (model : Model) (highest fresh : Record b.types), b.Generated ∧
      b.entity.Assembled ∧ Binding.Builds [b] none model ∧ b.id highest = maxId ∧ b.id fresh = 0 ∧
        let c := Client.run ⟨model, false⟩ ⟨.opened model, []⟩
          [.box ⟨b, .put highest⟩, .query b [], .box ⟨b, .put fresh⟩]
        ∃ x ∈ c.held, ∃ q, x.query = some q ∧ q.isClosed = false ∧
          (q.findIds MemoryEngine.storage c.engine).1 = .error (.error (.engine .poisoned)) := by
  obtain ⟨b, model, -, hg, ha, hm, hcheck⟩ := Schema.exists_note_model
    (fun b model => b.types = Schema.faint.map Value.type ∧
      ∀ ht : Schema.faint.map Value.type = b.types,
        b.id ⟨Schema.highest, ht⟩ = maxId ∧ b.id ⟨Schema.faint, ht⟩ = 0 ∧
          let c := Client.run ⟨model, false⟩ ⟨.opened model, []⟩
            [.box ⟨b, .put ⟨Schema.highest, ht⟩⟩, .query b [],
              .box ⟨b, .put ⟨Schema.faint, ht⟩⟩]
          c.held.any fun x : Held => x.query.any fun q : Query => q.isClosed = false ∧
            (q.findIds MemoryEngine.storage c.engine).1 = .error (.error (.engine .poisoned)))
    (by decide +kernel)
  obtain ⟨ht, hrun⟩ := of_decide_eq_true hcheck
  obtain ⟨hhighest, hfresh, hheld⟩ := hrun ht.symm
  obtain ⟨x, hx, hany⟩ := List.any_eq_true.mp hheld
  obtain ⟨q, hq, hfails⟩ := (Option.any_eq_true ..).mp hany
  exact ⟨b, model, ⟨Schema.highest, ht.symm⟩, ⟨Schema.faint, ht.symm⟩, hg, ha, hm, hhighest, hfresh,
    x, hx, q, hq, of_decide_eq_true hfails⟩

end RecordStore

import RecordStore.Proofs.Query.Operations

/-! Queries answer by the values of records, where the flags of the properties that they name say
of signs what the types say. -/
namespace RecordStore

/-- No test tells one zero of a floating point format from the other. -/
theorem Value.comparand_normalized (v : Value) : v.normalized.comparand = v.comparand := by
  cases v with
  | f32 x => exact congrArg Comparand.units x.units?_normalized
  | f64 x => exact congrArg Comparand.units x.units?_normalized
  | _ => rfl

namespace Binding

variable {b : Binding}

theorem satisfies_normalized (r : Record b.types) (c : Condition) :
    b.satisfies r.normalized c = b.satisfies r c := by
  have hentry : b.fieldOf? r.normalized c.property.propertyId =
      (b.fieldOf? r c.property.propertyId).map (Prod.map (fun f => f) Value.normalized) := by
    rw [fieldOf?, fieldOf?, Record.values_normalized, List.zip_map_right, List.find?_map]
    rfl
  rw [satisfies, satisfies, hentry]
  cases b.fieldOf? r c.property.propertyId with
  | none => rfl
  | some entry =>
    simp only [Option.map_some, Prod.map, Value.comparand_normalized]

/-- The integer properties that conditions name are flagged as unsigned if their types are, and
only then. -/
def SignsAgree (b : Binding) (conditions : List Condition) : Prop :=
  ∀ c ∈ conditions, ∀ f ∈ b.fields, f.property.id = c.property.propertyId →
    f.type.integerWidth?.isSome = true → f.property.flags.contains .unsigned = f.type.isUnsigned

instance (b : Binding) (conditions : List Condition) : Decidable (b.SignsAgree conditions) :=
  inferInstanceAs (Decidable (∀ c ∈ conditions, ∀ f ∈ b.fields,
    f.property.id = c.property.propertyId → f.type.integerWidth?.isSome = true →
      f.property.flags.contains .unsigned = f.type.isUnsigned))

/-- With the right flags the engine takes the values of stored records for what they are. -/
theorem meets_eq_satisfies {conditions : List Condition} (hs : b.SignsAgree conditions)
    {bytes : ByteArray} {r : Record b.types} (hd : b.decode bytes = .ok r) {c : Condition}
    (hc : c ∈ conditions) (ha : b.modelEntity.accept c = .ok ()) :
    b.meets r c = b.satisfies r c := by
  obtain ⟨i, f, offset, hfirst, -, -, -⟩ := of_accept ha
  have hf := hfirst.getElem?_eq
  obtain ⟨table, -, hread⟩ := bind_eq_ok.mp hd
  have hvalues := congrArg (fun xs => xs[i]?) (Record.of_read hread)
  simp only [List.getElem?_map, hf, Option.map_some] at hvalues
  obtain ⟨v, hv, hread⟩ := Option.map_eq_some_iff.mp hvalues.symm
  have hcomparand : v.comparandAs f.modelProperty.isUnsigned = v.comparand :=
    comparandAs_eq hread.symm fun hw =>
      hs c hc f (List.mem_of_getElem? hf) (beq_iff_eq.mp hfirst.id_eq) hw
  rw [meets, satisfies, hfirst.fieldOf?_eq hv]
  simp only [hcomparand]

theorem admits_eq {conditions : List Condition} (hs : b.SignsAgree conditions)
    (ha : ∀ c ∈ conditions, b.modelEntity.accept c = .ok ()) {bytes : ByteArray}
    {r : Record b.types} (hd : b.decode bytes = .ok r) :
    b.admits conditions bytes = true ↔ ∀ c ∈ conditions, b.satisfies r c = true := by
  rw [admits, hd]
  simp only [List.all_eq_true]
  refine forall₂_congr fun c hc => ?_
  rw [meets_eq_satisfies hs hd hc (ha c hc)]

end Binding

/-- A query that has just been opened is ready. -/
theorem Client.Sound.ready_query {bindings : List Binding} {c : Client} (h : c.Sound bindings)
    (hg : ∀ b ∈ bindings, b.Generated) (ha : ∀ b ∈ bindings, b.entity.Assembled) (store : Store)
    {b : Binding} (hb : b ∈ bindings) {conditions : List Condition} {q : Query} {m : MemoryEngine}
    (hq : Box.query MemoryEngine.storage ⟨store, b⟩ conditions c.engine = (.ok q, m)) :
    ∃ handle, q = .ofHandle b handle ∧
      (Query.ofHandle b handle).Ready m handle conditions := by
  rcases Box.query_cases store b conditions c.engine with
    ⟨e, hno⟩ | ⟨-, hno⟩ | ⟨e, hp, he, haccepted, hs, -, hyes⟩
  · rw [hno] at hq
    cases hq
  · rw [hno] at hq
    cases hq
  · rw [hyes] at hq
    cases hq
    rw [h.holds.entity b hb] at he
    cases he
    exact ⟨_, rfl, rfl, hp, h.holds.entity b hb, h.holds.rows_of_mem hb,
      QueryTable.compiled_eq_ok.mpr ⟨hs, Std.ExtTreeMap.getElem?_insert_self⟩, haccepted,
      (hg b hb).wellFormed (ha b hb), (hg b hb).storedByType⟩

/-- Whatever was called on a store of generated bindings in which the slots of the properties are
their places, a query that is opened on it finds those of its records whose values satisfy every
condition, and of records that are put from then on too. -/
theorem query_answers {bindings : List Binding} {last : Option IdUid} {model : Model}
    (hg : ∀ b ∈ bindings, b.Generated) (ha : ∀ b ∈ bindings, b.entity.Assembled)
    (hm : Binding.Builds bindings last model) (store : Store) {calls : List ClientCall}
    (hon : ∀ call ∈ calls, call.On bindings) {b : Binding} (hb : b ∈ bindings)
    {conditions : List Condition} {q : Query} {m : MemoryEngine}
    (hq : Box.query MemoryEngine.storage ⟨store, b⟩ conditions
      (Client.run store ⟨.opened model, []⟩ calls).engine = (.ok q, m))
    (hs : b.SignsAgree conditions) :
    (∃ ids, q.findIds MemoryEngine.storage m = (.ok ids, m) ∧
      ∀ id, id ∈ ids ↔ ∃ r, Box.get MemoryEngine.storage ⟨store, b⟩ id m = (.ok (some r), m) ∧
        ∀ c ∈ conditions, b.satisfies r c = true) ∧
    ∀ (r stored : Record b.types) (id : UInt64) (m' : MemoryEngine),
      Box.put MemoryEngine.storage ⟨store, b⟩ r m = ((.ok id, stored), m') →
        ∃ ids, q.findIds MemoryEngine.storage m' = (.ok ids, m') ∧
          (id ∈ ids ↔ ∀ c ∈ conditions, b.satisfies stored c = true) := by
  obtain ⟨handle, rfl, hready⟩ :=
    (Client.sound_run hg ha hm store hon).ready_query hg ha store hb hq
  constructor
  · refine ⟨_, hready.findIds_eq, fun id => ?_⟩
    have hget (r : Record b.types) :
        Box.get MemoryEngine.storage ⟨store, b⟩ id m = (.ok (some r), m) ↔
          ∃ bytes, (m.rows b.entity.id).entries[id]? = some bytes ∧ b.decode bytes = .ok r :=
      Box.get_eq_iff store hready.sound hready.entity hready.rows
    simp only [Query.ofHandle, Cursor.page_whole, Query.found, Binding.mem_ids_select, hget]
    constructor
    · rintro ⟨bytes, hk, hadmits⟩
      obtain ⟨-, r, hd⟩ := hready.rows id bytes hk
      exact ⟨r, ⟨bytes, hk, hd⟩, (Binding.admits_eq hs hready.accepted hd).mp hadmits⟩
    · rintro ⟨r, ⟨bytes, hk, hd⟩, hall⟩
      exact ⟨bytes, hk, (Binding.admits_eq hs hready.accepted hd).mpr hall⟩
  · intro r stored id m' hput
    obtain ⟨shelf, hstands⟩ := hready.rows.exists_stands
    obtain ⟨hne, rfl, data, hencode, rfl⟩ :=
      Box.of_put store hready.sound hready.entity hstands hput
    -- The row decodes to the record but for the signs of zeros, which no test sees.
    have hd := Binding.decode_of_encode hready.wellFormed hencode
    have hafter := hready.setRows (hready.rows.insert ⟨hne, _, hd⟩ (max shelf.counter id))
    refine ⟨_, hafter.findIds_eq, ?_⟩
    simp only [Query.ofHandle, Cursor.page_whole, Query.found, Binding.mem_ids_select,
      MemoryEngine.rows_setRows, Std.ExtTreeMap.getElem?_insert_self, Option.some.injEq,
      exists_eq_left']
    have hadmits := Binding.admits_eq hs hready.accepted hd
    simp only [Query.ofHandle, Binding.satisfies_normalized] at hadmits
    exact hadmits

/-- Asks for notes that were put and have a text. -/
def Schema.noteConditions : List Condition :=
  [⟨⟨1, 1⟩, .intGreater 0⟩, ⟨⟨1, 2⟩, .stringEquals "a"⟩]

theorem query_answers_note :
    ∃ (b : Binding) (model : Model) (q : Query) (m m' : MemoryEngine) (r stored : Record b.types)
      (ids : List UInt64), Binding.ofEntity Schema.note = .ok b ∧
        Box.query MemoryEngine.storage ⟨⟨model, false⟩, b⟩ Schema.noteConditions
          (.opened model) = (.ok q, m) ∧
        Box.put MemoryEngine.storage ⟨⟨model, false⟩, b⟩ r m = ((.ok 1, stored), m') ∧
        q.findIds MemoryEngine.storage m' = (.ok ids, m') ∧ 1 ∈ ids := by
  obtain ⟨b, model, hb, hg, ha, hm, hcheck⟩ := Schema.exists_note_model
    (fun b model => b.types = Schema.faint.map Value.type ∧
      ∀ ht : Schema.faint.map Value.type = b.types,
        let opened := Box.query MemoryEngine.storage ⟨⟨model, false⟩, b⟩ Schema.noteConditions
          (.opened model)
        let put := Box.put MemoryEngine.storage ⟨⟨model, false⟩, b⟩ ⟨Schema.faint, ht⟩ opened.2
        b.SignsAgree Schema.noteConditions ∧ opened.1.toOption.isSome ∧ put.1.1 = .ok 1 ∧
          ∀ c ∈ Schema.noteConditions, b.satisfies put.1.2 c = true)
    (by decide +kernel)
  obtain ⟨ht, hrun⟩ := of_decide_eq_true hcheck
  obtain ⟨hs, hopened, hput, hsatisfies⟩ := hrun ht.symm
  obtain ⟨q, hq⟩ := exists_ok hopened
  obtain ⟨-, h⟩ := query_answers (by simpa using hg) (by simpa using ha) hm ⟨model, false⟩
    (show ∀ call ∈ ([] : List ClientCall), call.On [b] by simp) List.mem_cons_self
    (Prod.ext hq rfl) hs
  obtain ⟨ids, hids, hmem⟩ := h ⟨Schema.faint, ht.symm⟩ _ 1 _ (Prod.ext (Prod.ext hput rfl) rfl)
  exact ⟨b, model, q, _, _, _, _, ids, hb, Prod.ext hq rfl, Prod.ext (Prod.ext hput rfl) rfl, hids,
    hmem.mpr hsatisfies⟩

/-- A gauge, whose level is signed and flagged as unsigned. -/
def Schema.gauge : Entity := Samples.entity 1 1000 "Gauge" ⟨2, 1002⟩
  [Samples.property 1 1001 "id" .u64,
    (Samples.property 2 1002 "level" .i8).withFlags .unsigned]

def Schema.gaugeSchema : Schema := ⟨#[gauge], ⟨1, 1000⟩⟩

theorem Schema.built_gaugeSchema : gaugeSchema.Built :=
  (Built.nothing ⟨1, 1000⟩).push (Samples.took_entity 1 1000 "Gauge" ⟨2, 1002⟩ _)

/-- Source is generated for gauges, and a query for levels below zero does not find the one that is
stored. -/
theorem query_misses_gauge :
    ∃ (b : Binding) (model : Model) (r stored : Record b.types), b.Generated ∧
      b.entity.Assembled ∧ Binding.Builds [b] none model ∧ r.values = [.u64 0, .i8 (-1)] ∧
      ∃ (q : Query) (m : MemoryEngine),
        Box.query MemoryEngine.storage ⟨⟨model, false⟩, b⟩ [⟨⟨1, 2⟩, .intLess 0⟩]
          (Client.run ⟨model, false⟩ ⟨.opened model, []⟩ [.box ⟨b, .put r⟩]).engine = (.ok q, m) ∧
        (Box.get MemoryEngine.storage ⟨⟨model, false⟩, b⟩ 1 m).1 = .ok (some stored) ∧
        b.satisfies stored ⟨⟨1, 2⟩, .intLess 0⟩ = true ∧
        (q.findIds MemoryEngine.storage m).1 = .ok [] := by
  obtain ⟨source, hsource⟩ : ∃ source, Schema.gaugeSchema.generate {} = .ok source :=
    exists_ok (by decide +kernel)
  obtain ⟨b, model, -, hg, ha, hm, hcheck⟩ := Schema.exists_model Schema.built_gaugeSchema.assembled
    hsource
    (show Schema.gauge ∈ Schema.gaugeSchema.entities by simp [Schema.gaugeSchema])
    (fun b model => b.types = [.u64, .i8] ∧
      ∀ ht : [Value.u64 0, .i8 (-1)].map Value.type = b.types,
        let opened := Box.query MemoryEngine.storage ⟨⟨model, false⟩, b⟩
          [⟨⟨1, 2⟩, .intLess 0⟩] (Client.run ⟨model, false⟩ ⟨.opened model, []⟩
            [.box ⟨b, .put ⟨[.u64 0, .i8 (-1)], ht⟩⟩]).engine
        opened.1.toOption.any (fun q : Query =>
          (q.findIds MemoryEngine.storage opened.2).1 = .ok []) ∧
          ((Box.get MemoryEngine.storage ⟨⟨model, false⟩, b⟩ 1 opened.2).1.toOption.join.any
            fun stored => b.satisfies stored ⟨⟨1, 2⟩, .intLess 0⟩))
    (by decide +kernel)
  obtain ⟨ht, hrun⟩ := of_decide_eq_true hcheck
  obtain ⟨hfind, hget⟩ := hrun ht.symm
  obtain ⟨q, hq, hfind⟩ := (Option.any_eq_true ..).mp hfind
  obtain ⟨stored, hstored, hsatisfies⟩ := (Option.any_eq_true ..).mp hget
  exact ⟨b, model, ⟨[.u64 0, .i8 (-1)], ht.symm⟩, stored, hg, ha, hm, rfl, q, _,
    Prod.ext (of_toOption hq) rfl, of_toOption (Option.join_eq_some_iff.mp hstored), hsatisfies,
    of_decide_eq_true hfind⟩

end RecordStore

import RecordStore.Proofs.Buffer.Reading
import RecordStore.Proofs.Engine.History
import RecordStore.Proofs.Model.WellFormed

/-! Where the directories of records describe the properties of a built model. The places fit 16
bits for the first 32766 properties of an entity and for no others, and building asks for no such
bound. -/
namespace RecordStore

open Buffer

/-- Most properties of an entity whose places in a directory fit 16 bits. -/
def maxOffsets : Nat := 32766

/-- Overflow of the place of a slot in a directory. -/
theorem exists_slotOffset_iff {i : Nat} (hi : i < UInt16.size) :
    (∃ offset, slotOffset (UInt16.ofNat i) = .ok offset) ↔ i < maxOffsets := by
  simp only [slotOffset_eq_ok, UInt16.toNat_ofNat_of_lt' hi]
  constructor
  · rintro ⟨offset, ho⟩
    have := offset.toNat_lt
    simp only [directoryHeaderSize, maxOffsets] at *
    omega
  · intro h
    refine ⟨UInt16.ofNat (directoryHeaderSize + 2 * i), UInt16.toNat_ofNat_of_lt' ?_⟩
    simp only [directoryHeaderSize, maxOffsets, UInt16.size] at *
    omega

/-- Searching for a key that no other item has finds the item itself. -/
theorem find?_key {α : Type} {key : α → UInt32} {xs : Array α} (h : (xs.toList.map key).Nodup)
    {x : α} (hx : x ∈ xs) : xs.find? (key · == key x) = some x := by
  cases hf : xs.find? (key · == key x) with
  | none => exact absurd (beq_self_eq_true (key x)) (by simpa using Array.find?_eq_none.mp hf x hx)
  | some y =>
    have hkey : key y = key x := by simpa using Array.find?_some hf
    have hy := Array.mem_toList_iff.mpr (Array.mem_of_find?_eq_some hf)
    rw [List.inj_on_of_nodup_map h hy (Array.mem_toList_iff.mpr hx) hkey]

namespace ModelEntity

variable {e : ModelEntity} {i : Nat} {p : ModelProperty} {c : Condition}

theorem findIdx?_id (h : (e.properties.toList.map ModelProperty.id).Nodup)
    (hp : e.properties[i]? = some p) : e.properties.findIdx? (·.id == p.id) = some i := by
  obtain ⟨hi, rfl⟩ := Array.getElem?_eq_some_iff.mp hp
  refine Array.findIdx?_eq_some_iff_getElem.mpr ⟨hi, beq_self_eq_true _, ?_⟩
  intro j hj
  have hne := List.nodup_iff_getElem?_ne_getElem?.mp h j i hj (by simpa using hi)
  simpa [hi, Nat.lt_trans hj hi] using hne

theorem property?_id (h : (e.properties.toList.map ModelProperty.id).Nodup)
    (hp : p ∈ e.properties) : e.property? p.id = some p := find?_key h hp

/-- Where the directory describes a property: by its place among the properties, as far as 16 bits
can say. -/
theorem slotOffset?_id (h : (e.properties.toList.map ModelProperty.id).Nodup)
    (hp : e.properties[i]? = some p) :
    e.slotOffset? p.id =
      if i < UInt16.size then (slotOffset (UInt16.ofNat i)).map some else .ok none := by
  rw [slotOffset?, findIdx?_id h hp]

theorem exists_slotOffset?_id (h : (e.properties.toList.map ModelProperty.id).Nodup)
    (hp : e.properties[i]? = some p) (hi : i < maxOffsets) :
    ∃ offset, e.slotOffset? p.id = .ok (some offset) ∧ offset.toNat = 4 + 2 * i := by
  have hi16 : i < UInt16.size := Nat.lt_trans hi (by decide)
  obtain ⟨offset, ho⟩ := (exists_slotOffset_iff hi16).mpr hi
  refine ⟨offset, ?_, ?_⟩
  · rw [slotOffset?_id h hp, if_pos hi16, ho]
    rfl
  · rw [slotOffset_eq_ok.mp ho, UInt16.toNat_ofNat_of_lt' hi16]
    rfl

/-- Beyond the bound, a place overflows as long as the index fits 16 bits. -/
theorem slotOffset?_overflows (h : (e.properties.toList.map ModelProperty.id).Nodup)
    (hp : e.properties[i]? = some p) (hi : maxOffsets ≤ i) (hi16 : i < UInt16.size) :
    ∃ overflow, e.slotOffset? p.id = .error overflow := by
  cases ho : slotOffset (UInt16.ofNat i) with
  | ok offset => exact absurd ((exists_slotOffset_iff hi16).mp ⟨offset, ho⟩) (Nat.not_lt.mpr hi)
  | error overflow =>
    refine ⟨overflow, ?_⟩
    rw [slotOffset?_id h hp, if_pos hi16, ho]
    rfl

/-- A condition names none of the properties that have no place in a directory. -/
def InDirectory (e : ModelEntity) (c : Condition) : Prop :=
  ∀ i p, e.properties[i]? = some p → c.property = ⟨e.id, p.id⟩ → i < maxOffsets

theorem target_id (h : (e.properties.toList.map ModelProperty.id).Nodup)
    (hp : e.properties[i]? = some p) (hc : c.property = ⟨e.id, p.id⟩) (hi : i < maxOffsets) :
    ∃ offset, e.target c = .ok (p, offset) := by
  obtain ⟨offset, ho, -⟩ := exists_slotOffset?_id h hp hi
  refine ⟨offset, ?_⟩
  rw [target, hc]
  simp [property?_id h (Array.mem_of_getElem? hp), ho, Attempt.ofArithmetic, Except.mapError]

/-- The entity does not report a property that it has as unknown. -/
def Knows (e : ModelEntity) (error : EngineError) : Prop :=
  ∀ id name, error = .unknownProperty id name → ∀ p ∈ e.properties, p.id ≠ id

theorem accept_id (h : (e.properties.toList.map ModelProperty.id).Nodup)
    (hp : e.properties[i]? = some p) (hc : c.property = ⟨e.id, p.id⟩) (hi : i < maxOffsets) :
    e.accept c =
      if c.test.applies p.type then .ok () else .error (.error (.conditionType p.name p.type)) := by
  obtain ⟨offset, ht⟩ := target_id h hp hc hi
  rw [accept, ht]
  rfl

theorem accept_cases (h : (e.properties.toList.map ModelProperty.id).Nodup)
    (hc : e.InDirectory c) :
    e.accept c = .ok () ∨ ∃ error, e.accept c = .error (.error error) ∧ e.Knows error := by
  by_cases hentity : c.property.entityId = e.id
  · cases hp : e.property? c.property.propertyId with
    | none =>
      have hnone : ∀ p ∈ e.properties, p.id ≠ c.property.propertyId := by
        simpa using Array.find?_eq_none.mp hp
      have hindex : e.properties.findIdx? (·.id == c.property.propertyId) = none := by
        simpa using hnone
      refine .inr ⟨.unknownProperty c.property.propertyId e.name, ?_, ?_⟩
      · simp [accept, target, hentity, hp, slotOffset?, hindex, Attempt.ofArithmetic,
          Except.mapError]
      · intro id name he
        cases he
        exact hnone
    | some p =>
      have hid : p.id = c.property.propertyId := by simpa using Array.find?_some hp
      obtain ⟨i, hi⟩ := Array.getElem?_of_mem (Array.mem_of_find?_eq_some hp)
      have hkey : c.property = ⟨e.id, p.id⟩ := by rw [← hentity, hid]
      rw [accept_id h hi hkey (hc i p hi hkey)]
      by_cases happlies : c.test.applies p.type = true
      · exact .inl (if_pos happlies)
      · exact .inr ⟨_, if_neg happlies, fun id name he => by cases he⟩
  · refine .inr ⟨.conditionOfEntity c.property.entityId e.name, ?_, fun id name he => by cases he⟩
    simp [accept, target, hentity]

theorem forM_accept_cases (h : (e.properties.toList.map ModelProperty.id).Nodup)
    {conditions : List Condition} (hc : ∀ c ∈ conditions, e.InDirectory c) :
    conditions.forM e.accept = .ok () ∨
      ∃ error, conditions.forM e.accept = .error (.error error) ∧ e.Knows error := by
  induction conditions with
  | nil => exact .inl rfl
  | cons c rest ih =>
    rw [List.forall_mem_cons] at hc
    rw [List.forM]
    rcases accept_cases h hc.1 with ha | ⟨error, ha, hknows⟩
    · rw [ha]
      exact ih hc.2
    · rw [ha]
      exact .inr ⟨error, rfl, hknows⟩

end ModelEntity

theorem Model.WellFormed.entity?_id {m : Model} (h : m.WellFormed) {e : ModelEntity}
    (he : e ∈ m.entities) : m.entity? e.id = some e := find?_key h.nodup he

namespace MemoryEngine

variable {engine : MemoryEngine} {m : Model} {e : ModelEntity}

theorem entity_of_wellFormed (h : m.WellFormed) (hm : engine.model = some m)
    (he : e ∈ m.entities) : engine.entity e.id = .ok e := by
  simp only [entity, hm, h.entity?_id he]

theorem createQuery_of_fault {id : UInt32} {conditions : List Condition}
    (hp : engine.poisoned = false) (he : engine.entity id = .ok e) {fault : Halt EngineError}
    (h : conditions.forM e.accept = .error fault) :
    engine.createQuery id conditions = (.error fault, engine) := by
  simp only [createQuery, demandSound, hp, he, Bool.false_eq_true, if_false, ok_bind,
    Attempt.ofExcept_ok, h]

/-- Making a query on an entity of an opened model does not end with a property reported as unknown
that the entity has, and overflows behind the highest handle alone. -/
theorem createQuery_knows (h : m.WellFormed) (hm : engine.model = some m) (he : e ∈ m.entities)
    {conditions : List Condition} (hc : ∀ c ∈ conditions, e.InDirectory c) :
    (∃ handle, (engine.createQuery e.id conditions).1 = .ok handle) ∨
      (engine.queries.issued = maxHandle ∧
        (engine.createQuery e.id conditions).1 = .error (.overflow .addition)) ∨
      ∃ error, (engine.createQuery e.id conditions).1 = .error (.error error) ∧ e.Knows error := by
  cases hp : engine.poisoned with
  | true =>
    refine .inr (.inr ⟨.poisoned, ?_, fun id name he => by cases he⟩)
    rw [createQuery_of_poisoned hp]
  | false =>
    have hentity := entity_of_wellFormed h hm he
    rcases ModelEntity.forM_accept_cases (h.identified e he).nodup hc with ha | ⟨error, ha, hknows⟩
    · rw [createQuery_of_accepted hp hentity (forM_eq_ok.mp ha)]
      rcases engine.queries.issue_cases ⟨e.id, conditions⟩ with ⟨-, hi⟩ | ⟨-, hm, hi⟩ | ⟨-, -, hi⟩
      all_goals rw [hi]
      · exact .inr (.inr ⟨_, rfl, fun id name he => by cases he⟩)
      · exact .inr (.inl ⟨hm, rfl⟩)
      · exact .inl ⟨_, rfl⟩
    · refine .inr (.inr ⟨error, ?_, hknows⟩)
      rw [createQuery_of_fault hp hentity ha]

end MemoryEngine

/-- In a model that was built, the first 32766 properties of an entity have places in directories:
the place of each is four more than twice its index and fits 16 bits, so that no two share one, and
making queries on them reports none of them as unknown and overflows behind the highest handle
alone; it succeeds if the tests fit the types, as long as the engine can give a handle. The places
of later properties overflow, and from the 65537th on there is none. -/
theorem slot_offsets_fit {calls : List ModelCall} {m : Model}
    (hm : (ModelBuilder.empty.after calls).build = .ok m) {e : ModelEntity} (he : e ∈ m.entities) :
    (∀ i p, e.properties[i]? = some p →
      (i < 32766 → ∃ offset, e.slotOffset? p.id = .ok (some offset) ∧ offset.toNat = 4 + 2 * i) ∧
      (32766 ≤ i → i < 65536 → ∃ overflow, e.slotOffset? p.id = .error overflow) ∧
      (65536 ≤ i → e.slotOffset? p.id = .ok none)) ∧
    (∀ i j p q, i < 32766 → j < 32766 → e.properties[i]? = some p → e.properties[j]? = some q →
      e.slotOffset? p.id = e.slotOffset? q.id → p = q) ∧
    ∀ engine : MemoryEngine, engine.model = some m →
      ∀ conditions : List Condition,
      (∀ c ∈ conditions, ∀ i p, e.properties[i]? = some p → c.property = ⟨e.id, p.id⟩ →
        i < 32766) →
      (∀ overflow, (engine.createQuery e.id conditions).1 = .error (.overflow overflow) →
        engine.queries.issued = maxHandle) ∧
      (∀ id name,
        (engine.createQuery e.id conditions).1 = .error (.error (.unknownProperty id name)) →
          ∀ p ∈ e.properties, p.id ≠ id) ∧
      (engine.poisoned = false → engine.queries.poisoned = false →
        engine.queries.issued ≠ maxHandle →
        (∀ c ∈ conditions, ∃ p ∈ e.properties, c.property = ⟨e.id, p.id⟩ ∧
          c.test.applies p.type = true) →
        ∃ handle, (engine.createQuery e.id conditions).1 = .ok handle) := by
  have hwf := Model.exists_calls_iff.mp ⟨calls, hm⟩
  have hnodup := (hwf.identified e he).nodup
  refine ⟨?_, ?_, ?_⟩
  · intro i p hp
    refine ⟨ModelEntity.exists_slotOffset?_id hnodup hp,
      ModelEntity.slotOffset?_overflows hnodup hp, ?_⟩
    intro hi
    rw [ModelEntity.slotOffset?_id hnodup hp, if_neg (Nat.not_lt.mpr hi)]
  · intro i j p q hi hj hp hq hsame
    obtain ⟨offset, ho, hplace⟩ := ModelEntity.exists_slotOffset?_id hnodup hp hi
    obtain ⟨offset', ho', hplace'⟩ := ModelEntity.exists_slotOffset?_id hnodup hq hj
    rw [ho, ho'] at hsame
    cases hsame
    have hij : i = j := by omega
    subst hij
    exact Option.some.inj (hp.symm.trans hq)
  · intro engine hengine conditions hc
    refine ⟨?_, ?_, ?_⟩
    · intro overflow ho
      rcases MemoryEngine.createQuery_knows hwf hengine he hc with
        ⟨handle, h⟩ | ⟨hi, -⟩ | ⟨error, h, -⟩
      · rw [h] at ho
        cases ho
      · exact hi
      · rw [h] at ho
        cases ho
    · intro id name hu
      rcases MemoryEngine.createQuery_knows hwf hengine he hc with
        ⟨handle, h⟩ | ⟨-, h⟩ | ⟨error, h, hknows⟩
      · rw [h] at hu
        cases hu
      · rw [h] at hu
        cases hu
      · rw [h] at hu
        cases hu
        exact hknows id name rfl
    · intro hp hqueries hissued hfits
      have haccept : ∀ c ∈ conditions, e.accept c = .ok () := by
        intro c hmem
        obtain ⟨p, hprop, hkey, happlies⟩ := hfits c hmem
        obtain ⟨i, hi⟩ := Array.getElem?_of_mem hprop
        rw [ModelEntity.accept_id hnodup hi hkey (hc c hmem i p hi hkey), if_pos happlies]
      rw [MemoryEngine.createQuery_of_accepted hp
        (MemoryEngine.entity_of_wellFormed hwf hengine he) haccept,
        QueryTable.issue_of_ne hqueries hissued]
      exact ⟨_, rfl⟩

/-- An entity with an identifier and a text. -/
def noteEntity : ModelEntity where
  id := 1
  uid := 10
  name := "Note"
  properties := #[⟨1, 11, "id", .long, .identifier⟩, ⟨2, 12, "text", .string, .none⟩]
  lastPropertyId := some ⟨2, 12⟩

theorem slot_offsets_fit_note :
    noteEntity.slotOffset? 2 = .ok (some 6) ∧
      ∃ handle, (MemoryEngine.createQuery 1 [⟨⟨1, 2⟩, .stringEquals "a"⟩]
        { MemoryEngine.new with model := some ⟨#[noteEntity], none⟩ }).1 = .ok handle := by
  have hm : (ModelBuilder.empty.after (Model.calls ⟨#[noteEntity], none⟩)).build =
      .ok ⟨#[noteEntity], none⟩ := of_toOption (by decide +kernel)
  have he : noteEntity ∈ (⟨#[noteEntity], none⟩ : Model).entities := by simp
  obtain ⟨hplace, -, hquery⟩ := slot_offsets_fit hm he
  constructor
  · obtain ⟨offset, ho, hoffset⟩ := (hplace 1 _ rfl).1 (by decide)
    have hsix : offset = 6 := UInt16.toNat_inj.mp hoffset
    rwa [hsix] at ho
  · refine (hquery { MemoryEngine.new with model := some ⟨#[noteEntity], none⟩ } rfl
      [⟨⟨1, 2⟩, .stringEquals "a"⟩] ?_).2.2 rfl rfl (by decide) ?_
    · intro c hc i p hp hkey
      have hi := (Array.getElem?_eq_some_iff.mp hp).1
      exact Nat.lt_trans hi (by decide)
    · intro c hc
      rw [List.mem_singleton.mp hc]
      exact ⟨⟨2, 12, "text", .string, .none⟩, by simp [noteEntity], rfl, rfl⟩

/-- An entity whose properties are its identifier and many numbers. -/
def wideEntity (count : Nat) : ModelEntity where
  id := 1
  uid := 1
  name := "Wide"
  properties := ((List.range count).map fun i =>
    ⟨UInt32.ofNat (i + 1), 1, "", .long, if i = 0 then .identifier else .none⟩).toArray
  lastPropertyId := some ⟨UInt32.ofNat count, 1⟩

namespace ModelEntity

variable {count : Nat}

theorem identified_wideEntity (hlt : count < UInt32.size) : (wideEntity count).Identified where
  id_ne_zero := (by decide : (1 : UInt32) ≠ 0)
  uid_ne_zero := (by decide : (1 : UInt64) ≠ 0)
  properties := by
    intro p hp
    simp only [wideEntity, List.mem_toArray, List.mem_map, List.mem_range] at hp
    obtain ⟨i, hi, rfl⟩ := hp
    refine ⟨?_, (by decide : (1 : UInt64) ≠ 0)⟩
    rw [ne_eq, ← UInt32.toNat_inj, UInt32.toNat_ofNat_of_lt' (by omega)]
    exact Nat.succ_ne_zero i
  nodup := by
    simp only [wideEntity, List.map_map]
    refine List.Nodup.map_on ?_ List.nodup_range
    intro i hi j hj hij
    rw [List.mem_range] at hi hj
    have hsame := UInt32.toNat_inj.mpr hij
    simp only [Function.comp_apply] at hsame
    rw [UInt32.toNat_ofNat_of_lt' (by omega), UInt32.toNat_ofNat_of_lt' (by omega)] at hsame
    omega

theorem complete_wideEntity (hpos : 0 < count) (hlt : count < UInt32.size) :
    (wideEntity count).Complete where
  last := by
    refine ⟨⟨UInt32.ofNat count, 1⟩, rfl, ?_⟩
    intro p hp
    simp only [wideEntity, List.mem_toArray, List.mem_map, List.mem_range] at hp
    obtain ⟨i, hi, rfl⟩ := hp
    rw [UInt32.le_iff_toNat_le, UInt32.toNat_ofNat_of_lt' (by omega),
      UInt32.toNat_ofNat_of_lt' hlt]
    exact hi
  identifier := by
    obtain ⟨more, rfl⟩ := Nat.exists_eq_add_one.mpr hpos
    refine ⟨⟨1, 1, "", .long, .identifier⟩, ?_, rfl⟩
    have hsplit : (wideEntity (more + 1)).properties.toList =
        ⟨1, 1, "", .long, .identifier⟩ :: (List.range more).map fun i =>
          ⟨UInt32.ofNat (i + 1 + 1), 1, "", .long, .none⟩ := by
      simp only [wideEntity, List.range_succ_eq_map, List.map_cons, List.map_map]
      rfl
    have hrest : ∀ p ∈ (List.range more).map fun i =>
        (⟨UInt32.ofNat (i + 1 + 1), 1, "", .long, .none⟩ : ModelProperty),
        ¬p.isIdentifier = true := by
      intro p hp
      obtain ⟨i, -, rfl⟩ := List.mem_map.mp hp
      exact (by decide : ¬PropertyFlags.none.contains .identifier = true)
    rw [hsplit, List.filter_cons_of_pos (by decide), List.filter_eq_nil_iff.mpr hrest]

end ModelEntity

theorem Model.wellFormed_wideEntity {count : Nat} (hpos : 0 < count) (hlt : count < UInt32.size) :
    (⟨#[wideEntity count], none⟩ : Model).WellFormed where
  entities_ne := by simp
  nodup := by simp
  identified := by
    simpa using ModelEntity.identified_wideEntity hlt
  complete := by
    simpa using ModelEntity.complete_wideEntity hpos hlt
  within := by simp [EntitiesWithin]

/-- The place of the 32767th property overflows, and so does making a query on it. -/
theorem createQuery_overflows_wideEntity {count : Nat} (h : maxOffsets < count)
    (hlt : count < UInt32.size) :
    ∃ p ∈ (wideEntity count).properties, (wideEntity count).slotOffset? p.id = .error .addition ∧
      (MemoryEngine.createQuery (wideEntity count).id
        [⟨⟨(wideEntity count).id, p.id⟩, .intEquals 0⟩]
        { MemoryEngine.new with model := some ⟨#[wideEntity count], none⟩ }).1 =
          .error (.overflow .addition) := by
  have hwf := Model.wellFormed_wideEntity (Nat.zero_lt_of_lt h) hlt
  have he : wideEntity count ∈ (⟨#[wideEntity count], none⟩ : Model).entities := by simp
  have hp : (wideEntity count).properties[maxOffsets]? =
      some ⟨UInt32.ofNat (maxOffsets + 1), 1, "", .long, .none⟩ := by
    have hi : (List.range count)[maxOffsets]? = some maxOffsets := List.getElem?_range h
    simp only [wideEntity, List.getElem?_toArray, List.getElem?_map, hi]
    rfl
  generalize wideEntity count = e at *
  have hnodup := (hwf.identified _ he).nodup
  have hoffset : e.slotOffset? (UInt32.ofNat (maxOffsets + 1)) = .error .addition := by
    rw [ModelEntity.slotOffset?_id hnodup hp]
    rfl
  refine ⟨_, Array.mem_of_getElem? hp, hoffset, ?_⟩
  have haccept : e.accept ⟨⟨e.id, UInt32.ofNat (maxOffsets + 1)⟩, .intEquals 0⟩ =
      .error (.overflow .addition) := by
    simp only [ModelEntity.accept, ModelEntity.target, hoffset, ne_eq, not_true_eq_false, if_false]
    rfl
  have hentity : MemoryEngine.entity { MemoryEngine.new with model := some ⟨#[e], none⟩ } e.id =
      .ok e := MemoryEngine.entity_of_wellFormed hwf rfl he
  have hchecked : [⟨⟨e.id, UInt32.ofNat (maxOffsets + 1)⟩, .intEquals 0⟩].forM e.accept =
      .error (.overflow .addition) := by
    rw [List.forM, haccept]
    rfl
  rw [MemoryEngine.createQuery_of_fault rfl hentity hchecked]

theorem slot_offset_overflows_wide :
    ∃ calls m, (ModelBuilder.empty.after calls).build = .ok m ∧
      ∃ e ∈ m.entities, ∃ p ∈ e.properties, e.slotOffset? p.id = .error .addition ∧
        (MemoryEngine.createQuery e.id [⟨⟨e.id, p.id⟩, .intEquals 0⟩]
          { MemoryEngine.new with model := some m }).1 = .error (.overflow .addition) := by
  obtain ⟨calls, hm⟩ := Model.exists_calls_iff.mpr
    (Model.wellFormed_wideEntity (by decide : 0 < 32767) (by decide))
  exact ⟨calls, _, hm, _, by simp, createQuery_overflows_wideEntity (by decide) (by decide)⟩

end RecordStore

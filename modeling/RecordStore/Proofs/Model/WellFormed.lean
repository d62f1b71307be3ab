import Mathlib.Data.List.Perm.Subperm
import RecordStore.Proofs.Model.Marks

/-! The models that calls can build: exactly the well-formed ones. -/
namespace RecordStore

/-- What building asks of an entity: a last property id with no property above it, and one
identifier, which is stored as a long number. -/
structure ModelEntity.Complete (e : ModelEntity) : Prop where
  last : ∃ last, e.lastPropertyId = some last ∧ ∀ p ∈ e.properties, p.id ≤ last.id
  identifier : ∃ p, e.properties.toList.filter ModelProperty.isIdentifier = [p] ∧ p.type = .long

/-- No entity is above the last entity id, if there is one. -/
def EntitiesWithin (entities : Array ModelEntity) (last : Option IdUid) : Prop :=
  ∀ id ∈ last, ∀ e ∈ entities, e.id ≤ id.id

structure Model.WellFormed (m : Model) : Prop where
  entities_ne : m.entities ≠ #[]
  nodup : (m.entities.toList.map (·.id)).Nodup
  identified : ∀ e ∈ m.entities, e.Identified
  complete : ∀ e ∈ m.entities, e.Complete
  within : EntitiesWithin m.entities m.lastEntityId

namespace ModelEntity

variable {e : ModelEntity}

theorem identifierFault?_eq_none :
    e.identifierFault? = none ↔
      ∃ p, e.properties.toList.filter ModelProperty.isIdentifier = [p] ∧ p.type = .long := by
  rw [identifierFault?]
  split
  case h_1 hf => simp [hf]
  case h_2 p hf =>
    rw [hf]
    by_cases ht : p.type = .long
    · simp [ht]
    · simp [ht]
  case h_3 hn hone =>
    refine iff_of_false (by simp) ?_
    rintro ⟨p, hp, -⟩
    exact hone p hp

theorem check_iff : e.check = .ok () ↔ e.Complete := by
  constructor
  · intro h
    rw [check] at h
    cases hl : e.lastPropertyId with
    | none =>
      rw [hl] at h
      cases h
    | some last =>
      simp only [hl] at h
      cases hfind : e.properties.find? (last.id < ·.id) with
      | some p =>
        simp only [hfind] at h
        cases h
      | none =>
        simp only [hfind] at h
        cases hfault : e.identifierFault? with
        | some fault =>
          simp only [hfault] at h
          cases h
        | none =>
          refine ⟨⟨last, hl, ?_⟩, identifierFault?_eq_none.mp hfault⟩
          intro p hp
          simpa using Array.find?_eq_none.mp hfind p hp
  · rintro ⟨⟨last, hl, hle⟩, p, hp, ht⟩
    exact check_eq_ok hl hle hp ht

/-- The ids of properties are distinct numbers from one to the last id. -/
theorem size_le (hi : e.Identified) {last : IdUid} (hle : ∀ p ∈ e.properties, p.id ≤ last.id) :
    e.properties.size ≤ last.id.toNat := by
  have hnodup : (e.properties.toList.map fun p => p.id.toNat).Nodup := by
    have hmap := hi.nodup.map (f := UInt32.toNat) fun _ _ => UInt32.toNat_inj.mp
    rwa [List.map_map] at hmap
  have hsubset : (e.properties.toList.map fun p => p.id.toNat) ⊆ List.range' 1 last.id.toNat := by
    intro n hn
    obtain ⟨p, hp, rfl⟩ := List.mem_map.mp hn
    have hmem := Array.mem_toList_iff.mp hp
    have hpos := UInt32.toNat_inj.not.mpr (hi.properties p hmem).1
    have hbound := UInt32.le_iff_toNat_le.mp (hle p hmem)
    rw [UInt32.toNat_zero] at hpos
    rw [List.mem_range'_1]
    omega
  have hlength := (hnodup.subperm hsubset).length_le
  rwa [List.length_map, Array.length_toList, List.length_range'] at hlength

end ModelEntity

namespace ModelBuilder

variable {b : ModelBuilder} {es : Array ModelEntity} {e : ModelEntity}

theorem checkEntity_iff :
    b.checkEntity e = .ok () ↔ e.Complete ∧ ∀ last ∈ b.lastEntityId, e.id ≤ last.id := by
  rw [checkEntity, bind_eq_ok, ← ModelEntity.check_iff]
  constructor
  · rintro ⟨⟨⟩, hc, h⟩
    refine ⟨hc, ?_⟩
    intro last hl
    rw [Option.mem_def.mp hl] at h
    exact UInt32.not_lt.mp (ite_error_eq_ok.mp h).1
  · rintro ⟨hc, hle⟩
    refine ⟨(), hc, ?_⟩
    cases hl : b.lastEntityId with
    | none => rfl
    | some last => exact if_neg (UInt32.not_lt.mpr (hle last hl))

theorem build_eq_ok {m : Model} :
    b.build = .ok m ↔
      (b.entities ≠ #[] ∧ (∀ e ∈ b.entities, e.Complete) ∧
        EntitiesWithin b.entities b.lastEntityId) ∧ m = ⟨b.entities, b.lastEntityId⟩ := by
  have hchecks : b.entities.toList.forM b.checkEntity = .ok () ↔
      (∀ e ∈ b.entities, e.Complete) ∧ EntitiesWithin b.entities b.lastEntityId := by
    rw [forM_eq_ok]
    simp only [checkEntity_iff, Array.mem_toList_iff]
    exact ⟨fun h => ⟨fun e he => (h e he).1, fun last hl e he => (h e he).2 last hl⟩,
      fun h e he => ⟨h.1 e he, fun last hl => h.2 last hl e he⟩⟩
  simp only [build, throw_eq_error, error_bind]
  rw [ite_error_eq_ok, bind_eq_ok, Array.isEmpty_iff]
  constructor
  · rintro ⟨hne, ⟨⟩, hc, he⟩
    cases he
    exact ⟨⟨hne, hchecks.mp hc⟩, rfl⟩
  · rintro ⟨⟨hne, hc⟩, rfl⟩
    exact ⟨hne, (), hchecks.mpr hc, rfl⟩

end ModelBuilder

/-- Calls that add a property. -/
def ModelProperty.calls (p : ModelProperty) : List ModelCall :=
  [.property p.name p.type p.id p.uid, .flags p.flags]

/-- Calls that add an entity with its properties. -/
def ModelEntity.calls (e : ModelEntity) : List ModelCall :=
  .entity e.name e.id e.uid ::
    (e.properties.toList.flatMap ModelProperty.calls ++
      e.lastPropertyId.toList.map .lastPropertyId)

/-- Calls that build a model. -/
def Model.calls (m : Model) : List ModelCall :=
  m.entities.toList.flatMap ModelEntity.calls ++ m.lastEntityId.toList.map .lastEntityId

namespace ModelBuilder

variable {b : ModelBuilder} {es : Array ModelEntity} {e : ModelEntity}

theorem after_property {p : ModelProperty} (hb : b.entities = es.push e) (hid : p.id ≠ 0)
    (huid : p.uid ≠ 0) (hnew : p.id ∉ e.properties.toList.map ModelProperty.id) :
    b.after p.calls = { b with entities := es.push (e.extend [p]) } := by
  have hproperty : b.next (.property p.name p.type p.id p.uid) =
      { b with entities := es.push (e.extend [⟨p.id, p.uid, p.name, p.type, .none⟩]) } :=
    (Steps.property hb hid huid hnew).next
  have hflags : PropertyFlags.none.union p.flags = p.flags := by
    simp [PropertyFlags.union, PropertyFlags.none]
  rw [ModelProperty.calls, after_cons, hproperty, after_singleton, (Steps.flags rfl).next, hflags]

theorem after_properties {ps : List ModelProperty} (hb : b.entities = es.push e)
    (hset : ∀ p ∈ ps, p.id ≠ 0 ∧ p.uid ≠ 0)
    (hnodup : ((e.extend ps).properties.toList.map ModelProperty.id).Nodup) :
    b.after (ps.flatMap ModelProperty.calls) = { b with entities := es.push (e.extend ps) } := by
  induction ps generalizing b e with
  | nil =>
    rw [ModelEntity.extend_nil, ← hb]
    rfl
  | cons p ps ih =>
    have hnew : p.id ∉ e.properties.toList.map ModelProperty.id := by
      rw [ModelEntity.toList_extend, List.map_append] at hnodup
      intro hm
      exact (List.nodup_append.mp hnodup).2.2 _ hm _ (by simp) rfl
    rw [← ModelEntity.extend_cons] at hnodup ⊢
    rw [List.flatMap_cons, after_append,
      after_property hb (hset p (by simp)).1 (hset p (by simp)).2 hnew,
      ih rfl (fun q hq => hset q (by simp [hq])) hnodup]

theorem after_entity (hi : e.Identified) (hnew : e.id ∉ b.ids) :
    b.after e.calls = { b with entities := b.entities.push e } := by
  have hentity : b.next (.entity e.name e.id e.uid) =
      { b with entities := b.entities.push ⟨e.id, e.uid, e.name, #[], none⟩ } :=
    (Steps.entity hi.id_ne_zero hi.uid_ne_zero hnew).next
  have hextend : (⟨e.id, e.uid, e.name, #[], none⟩ : ModelEntity).extend e.properties.toList =
      { e with lastPropertyId := none } := by
    simp [ModelEntity.extend]
  rw [ModelEntity.calls, after_cons, hentity, after_append, after_properties rfl
    (fun p hp => hi.properties p (Array.mem_toList_iff.mp hp)) (by rw [hextend]; exact hi.nodup),
    hextend]
  obtain ⟨id, uid, name, properties, last⟩ := e
  cases last with
  | none => rfl
  | some last =>
    rw [Option.toList_some, List.map_singleton, after_singleton, (Steps.lastPropertyId rfl).next]

theorem after_entities {list : List ModelEntity} (hi : ∀ e ∈ list, e.Identified)
    (hnodup : (b.ids ++ list.map (·.id)).Nodup) :
    b.after (list.flatMap ModelEntity.calls) =
      { b with entities := b.entities ++ list.toArray } := by
  induction list generalizing b with
  | nil => simp [after]
  | cons e list ih =>
    have hnew : e.id ∉ b.ids := fun hm =>
      (List.nodup_append.mp hnodup).2.2 _ hm _ (by simp) rfl
    rw [List.flatMap_cons, after_append, after_entity (hi e (by simp)) hnew,
      ih (fun f hf => hi f (by simp [hf])) (by simpa [ids] using hnodup)]
    simp

theorem after_calls {m : Model} (h : m.WellFormed) :
    empty.after m.calls = ⟨m.entities, m.lastEntityId⟩ := by
  rw [Model.calls, after_append, after_entities
    (fun e he => h.identified e (Array.mem_toList_iff.mp he)) (by simpa [ids, empty] using h.nodup)]
  cases m.lastEntityId with
  | none => simp [after, empty]
  | some last =>
    rw [Option.toList_some, List.map_singleton, after_singleton, Steps.lastEntityId.next]
    simp [empty]

end ModelBuilder

/-- The models that calls build are the well-formed ones. -/
theorem Model.exists_calls_iff {m : Model} :
    (∃ calls, (ModelBuilder.empty.after calls).build = .ok m) ↔ m.WellFormed := by
  constructor
  · rintro ⟨calls, hb⟩
    obtain ⟨⟨hne, hc, hw⟩, rfl⟩ := ModelBuilder.build_eq_ok.mp hb
    have hi := ModelBuilder.Identified.of_empty.after calls
    exact ⟨hne, hi.nodup, hi.entities, hc, hw⟩
  · intro h
    refine ⟨m.calls, ?_⟩
    rw [ModelBuilder.after_calls h]
    exact ModelBuilder.build_eq_ok.mpr ⟨⟨h.entities_ne, h.complete, h.within⟩, rfl⟩

/-- Whatever calls are made, one that fails changes nothing. A model is built if there is an entity,
each entity has one identifier, a long one, and keeps to its last property id, and none is above the
last entity id that was set; an identifier is a property that was given the flag while it was the
last one. The models that can be built are the well-formed ones, and no entity of them has more
properties than its last property id counts. -/
theorem builds_well_formed_models (calls : List ModelCall) :
    (∀ call e, (ModelBuilder.empty.after calls).reply call = .error e →
      (ModelBuilder.empty.after calls).next call = ModelBuilder.empty.after calls) ∧
    ((∃ m, (ModelBuilder.empty.after calls).build = .ok m) ↔
      (ModelBuilder.empty.after calls).entities ≠ #[] ∧
        (∀ e ∈ (ModelBuilder.empty.after calls).entities, e.Complete) ∧
        EntitiesWithin (ModelBuilder.empty.after calls).entities
          (ModelBuilder.empty.after calls).lastEntityId) ∧
    (∀ e ∈ (ModelBuilder.empty.after calls).entities, ∀ p ∈ e.properties,
      p.isIdentifier = true ↔ ModelBuilder.Marked calls e.id p.id) ∧
    (∀ m, (ModelBuilder.empty.after calls).build = .ok m →
      m = ⟨(ModelBuilder.empty.after calls).entities,
        (ModelBuilder.empty.after calls).lastEntityId⟩ ∧ m.WellFormed ∧
      ∀ e ∈ m.entities, ∀ last ∈ e.lastPropertyId, e.properties.size ≤ last.id.toNat) ∧
    ∀ m : Model, m.WellFormed → ∃ calls, (ModelBuilder.empty.after calls).build = .ok m := by
  refine ⟨fun call e h => ModelBuilder.next_of_reply_error h, ?_,
    ModelBuilder.shows_marked calls, ?_, fun m h => Model.exists_calls_iff.mpr h⟩
  · constructor
    · rintro ⟨m, hm⟩
      exact (ModelBuilder.build_eq_ok.mp hm).1
    · intro h
      exact ⟨_, ModelBuilder.build_eq_ok.mpr ⟨h, rfl⟩⟩
  · intro m hm
    have hwf := Model.exists_calls_iff.mp ⟨calls, hm⟩
    refine ⟨(ModelBuilder.build_eq_ok.mp hm).2, hwf, ?_⟩
    intro e he last hl
    obtain ⟨last', hl', hle⟩ := (hwf.complete e he).last
    rw [hl] at hl'
    cases hl'
    exact ModelEntity.size_le (hwf.identified e he) hle

end RecordStore

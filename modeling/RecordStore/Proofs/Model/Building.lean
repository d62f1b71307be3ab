import RecordStore.Proofs.Model.Registration

/-! Calls that register bindings succeed if their ids are set and distinct, and the entities that
they leave make a model if each keeps to its last id and has one identifier. -/
namespace RecordStore

namespace ModelEntity

variable {e : ModelEntity}

theorem exists_addProperty (name : String) (type : PropertyType) {id : UInt32} {uid : UInt64}
    (hid : id ≠ 0) (huid : uid ≠ 0) (hnew : id ∉ e.properties.toList.map ModelProperty.id) :
    ∃ e', e.addProperty name type id uid = .ok e' := by
  have hset : ¬ (id == 0 || uid == 0) = true := by simp [hid, huid]
  have hfind : ¬ (e.property? id).isSome = true := by
    rw [property?, Array.find?_isSome]
    rintro ⟨p, hp, he⟩
    exact hnew (List.mem_map.mpr ⟨p, Array.mem_toList_iff.mpr hp, by simpa using he⟩)
  rw [addProperty, if_neg hset, if_neg hfind]
  exact ⟨_, rfl⟩

/-- An entity passes if its properties keep to its last id and one of them, a long one, is the
identifier. -/
theorem check_eq_ok {last : IdUid} (hl : e.lastPropertyId = some last)
    (hle : ∀ p ∈ e.properties, p.id ≤ last.id) {p : ModelProperty}
    (hp : e.properties.toList.filter ModelProperty.isIdentifier = [p]) (ht : p.type = .long) :
    e.check = .ok () := by
  have hfind : e.properties.find? (last.id < ·.id) = none := by
    rw [Array.find?_eq_none]
    intro q hq
    simpa using hle q hq
  have hfault : e.identifierFault? = none := by
    simp [identifierFault?, hp, ht]
  simp only [check, hl, hfind, hfault]

end ModelEntity

/-- What registering a binding asks of its ids. -/
structure Binding.Registrable (b : Binding) : Prop where
  id_ne_zero : b.entity.id ≠ 0
  uid_ne_zero : b.entity.uid ≠ 0
  fields : ∀ f ∈ b.fields, f.property.id ≠ 0 ∧ f.property.uid ≠ 0
  nodup : (b.fields.map (·.property.id)).Nodup

namespace ModelBuilder

variable {b b' : ModelBuilder} {es : Array ModelEntity} {e : ModelEntity}

theorem applyAll_cons {call : ModelCall} (h : b.apply call = .ok b') (calls : List ModelCall) :
    b.applyAll (call :: calls) = b'.applyAll calls := by
  rw [applyAll, h]

theorem applyAll_append {xs : List ModelCall} (h : b.applyAll xs = (.ok (), b'))
    (ys : List ModelCall) : b.applyAll (xs ++ ys) = b'.applyAll ys := by
  induction xs generalizing b with
  | nil =>
    cases h
    rfl
  | cons call xs ih =>
    obtain ⟨next, ha, h⟩ := of_applyAll_cons h
    rw [List.cons_append, applyAll_cons ha, ih h]

theorem exists_field_calls {f : BoundField} (hb : b.entities = es.push e)
    (hid : f.property.id ≠ 0) (huid : f.property.uid ≠ 0)
    (hnew : f.property.id ∉ e.properties.toList.map ModelProperty.id) :
    ∃ b', b.applyAll f.modelCalls = (.ok (), b') := by
  obtain ⟨e', hadd⟩ :=
    ModelEntity.exists_addProperty f.property.storeName f.property.storeType hid huid hnew
  have happly : b.apply (.property f.property.storeName f.property.storeType f.property.id
      f.property.uid) = .ok { b with entities := es.push e' } := by
    rw [apply, onLast_push hb, hadd]
    rfl
  rw [BoundField.modelCalls, applyAll_cons happly]
  by_cases hf : f.property.flags.isEmpty = true
  · rw [if_pos hf]
    exact ⟨_, rfl⟩
  · obtain ⟨last, hflags⟩ : ∃ last, ({ b with entities := es.push e' } : ModelBuilder).apply
        (.flags f.property.flags) = .ok last := by
      rw [apply, onLast_push rfl, ModelEntity.of_addProperty hadd, ModelEntity.addFlags_extend]
      exact ⟨_, rfl⟩
    rw [if_neg hf, applyAll_cons hflags]
    exact ⟨last, rfl⟩

/-- The ids of the properties so far and of the fields to come are distinct all along. -/
theorem exists_fields_calls {fields : List BoundField} (hb : b.entities = es.push e)
    (hset : ∀ f ∈ fields, f.property.id ≠ 0 ∧ f.property.uid ≠ 0)
    (hnodup : (e.properties.toList.map ModelProperty.id ++
      fields.map (·.property.id)).Nodup) :
    ∃ b', b.applyAll (fields.flatMap BoundField.modelCalls) = (.ok (), b') := by
  induction fields generalizing b e with
  | nil => exact ⟨b, rfl⟩
  | cons f fields ih =>
    obtain ⟨hid, huid⟩ := hset f (by simp)
    have hnew : f.property.id ∉ e.properties.toList.map ModelProperty.id := by
      intro hm
      exact (List.nodup_append.mp hnodup).2.2 _ hm _ (by simp) rfl
    obtain ⟨next, hf⟩ := exists_field_calls hb hid huid hnew
    obtain ⟨last, hl⟩ := ih (of_field_calls hb hf) (fun g hg => hset g (by simp [hg]))
      (by simpa [ModelEntity.extend, BoundField.modelProperty] using hnodup)
    rw [List.flatMap_cons, applyAll_append hf]
    exact ⟨last, hl⟩

theorem exists_binding_calls {binding : Binding} (h : binding.Registrable)
    (hnew : binding.entity.id ∉ b.ids) : ∃ b', b.applyAll binding.modelCalls = (.ok (), b') := by
  have hset : ¬ (binding.entity.id == 0 || binding.entity.uid == 0) = true := by
    simp [h.id_ne_zero, h.uid_ne_zero]
  have hany : ¬ b.entities.any (·.id == binding.entity.id) = true := by
    rw [Array.any_eq_true']
    rintro ⟨e, he, hid⟩
    exact hnew (List.mem_map.mpr ⟨e, Array.mem_toList_iff.mpr he, by simpa using hid⟩)
  obtain ⟨first, hentity, hfirst⟩ : ∃ first,
      b.apply (.entity binding.entity.name binding.entity.id binding.entity.uid) = .ok first ∧
        first.entities = b.entities.push
          ⟨binding.entity.id, binding.entity.uid, binding.entity.name, #[], none⟩ := by
    rw [apply, addEntity, if_neg hset, if_neg hany]
    exact ⟨_, rfl, rfl⟩
  obtain ⟨next, hf⟩ := exists_fields_calls hfirst h.fields (by simpa using h.nodup)
  obtain ⟨last, hl⟩ : ∃ last,
      next.apply (.lastPropertyId binding.entity.lastPropertyId) = .ok last := by
    rw [apply, onLast_push (of_fields_calls hfirst hf)]
    exact ⟨_, rfl⟩
  rw [Binding.modelCalls, List.cons_append, applyAll_cons hentity, applyAll_append hf,
    applyAll_cons hl]
  exact ⟨last, rfl⟩

theorem exists_bindings_calls {bindings : List Binding} (h : ∀ b ∈ bindings, b.Registrable)
    (hnodup : (b.ids ++ bindings.map (·.entity.id)).Nodup) :
    ∃ b', b.applyAll (bindings.flatMap Binding.modelCalls) = (.ok (), b') := by
  induction bindings generalizing b with
  | nil => exact ⟨b, rfl⟩
  | cons binding bindings ih =>
    have hnew : binding.entity.id ∉ b.ids := by
      intro hm
      exact (List.nodup_append.mp hnodup).2.2 _ hm _ (by simp) rfl
    obtain ⟨next, hb⟩ := exists_binding_calls (h binding (by simp)) hnew
    have hids : next.ids = b.ids ++ [binding.entity.id] := by
      rw [ids, of_binding_calls hb, Array.toList_push, List.map_append]
      rfl
    have hrest : (next.ids ++ bindings.map (·.entity.id)).Nodup := by
      simpa [hids] using hnodup
    obtain ⟨last, hl⟩ := ih (fun b hb => h b (by simp [hb])) hrest
    rw [List.flatMap_cons, applyAll_append hb]
    exact ⟨last, hl⟩

/-- Bindings that can be registered, and are then told the last entity id, leave their entities in
order. -/
theorem applyAll_modelCallsOf {bindings : List Binding} {last : IdUid}
    (h : ∀ b ∈ bindings, b.Registrable) (hnodup : (bindings.map (·.entity.id)).Nodup) :
    empty.applyAll (Binding.modelCallsOf bindings (some last)) =
      (.ok (), ⟨(bindings.map Binding.modelEntity).toArray, some last⟩) := by
  obtain ⟨b, hb⟩ := exists_bindings_calls (b := empty) h hnodup
  have hall : empty.applyAll (Binding.modelCallsOf bindings (some last)) =
      (.ok (), { b with lastEntityId := some last }) := by
    rw [Binding.modelCallsOf, applyAll_append hb]
    rfl
  have hentities := of_bindings_calls hall
  rw [hall, show { b with lastEntityId := some last } =
    (⟨b.entities, some last⟩ : ModelBuilder) from rfl]
  simp only [empty, Array.empty_append] at hentities
  rw [hentities]

/-- Entities that pass make a model, if there are any. -/
theorem build_eq {es : List ModelEntity} {last : IdUid}
    (h : ∀ e ∈ es, e.check = .ok () ∧ e.id ≤ last.id) :
    (⟨es.toArray, some last⟩ : ModelBuilder).build =
      if es = [] then .error .noEntities else .ok ⟨es.toArray, some last⟩ := by
  by_cases he : es = []
  · rw [he]
    rfl
  · have hchecks : es.forM (checkEntity ⟨es.toArray, some last⟩) = .ok () := by
      rw [forM_eq_ok]
      intro e hmem
      obtain ⟨hc, hle⟩ := h e hmem
      simp only [checkEntity, hc, ok_bind]
      rw [if_neg (UInt32.not_lt.mpr hle)]
      rfl
    rw [if_neg he, build, if_neg (by simpa using he)]
    simp only [hchecks, ok_bind, pure_eq_ok]

end ModelBuilder

end RecordStore

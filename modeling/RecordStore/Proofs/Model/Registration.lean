import Mathlib.Data.List.Nodup
import RecordStore.Proofs.Model.Entities

/-! The model of bindings knows each of their entities as its binding describes it. -/
namespace RecordStore

/-- A field as the store knows it. -/
def BoundField.modelProperty (f : BoundField) : ModelProperty :=
  ⟨f.property.id, f.property.uid, f.property.storeName, f.property.storeType, f.property.flags⟩

/-- The entity of a binding as the store knows it. -/
def Binding.modelEntity (b : Binding) : ModelEntity where
  id := b.entity.id
  uid := b.entity.uid
  name := b.entity.name
  properties := (b.fields.map BoundField.modelProperty).toArray
  lastPropertyId := some b.entity.lastPropertyId

namespace ModelEntity

/-- The entity with more properties behind its own. -/
def extend (e : ModelEntity) (properties : List ModelProperty) : ModelEntity :=
  { e with properties := e.properties ++ properties.toArray }

theorem extend_nil (e : ModelEntity) : e.extend [] = e := by simp [extend]

theorem extend_cons (e : ModelEntity) (p : ModelProperty) (properties : List ModelProperty) :
    (e.extend [p]).extend properties = e.extend (p :: properties) := by
  simp [extend]

theorem of_addProperty {e e' : ModelEntity} {name : String} {type : PropertyType} {id : UInt32}
    {uid : UInt64} (h : e.addProperty name type id uid = .ok e') :
    e' = e.extend [⟨id, uid, name, type, .none⟩] := by
  obtain ⟨-, h⟩ := ite_error_eq_ok.mp h
  obtain ⟨-, he⟩ := ite_error_eq_ok.mp h
  cases he
  simp [extend]

/-- Flags go to the property that was added last. -/
theorem addFlags_extend (e : ModelEntity) (p : ModelProperty) (flags : PropertyFlags) :
    (e.extend [p]).addFlags flags = .ok (e.extend [{ p with flags := p.flags.union flags }]) := by
  have hne : ¬ (e.extend [p]).properties.isEmpty = true := by simp [extend]
  rw [addFlags, if_neg hne]
  congr 1
  simp only [extend, mk.injEq, true_and, and_true]
  apply Array.ext_getElem?
  intro i
  rw [Array.getElem?_modify]
  by_cases hi : i = e.properties.size
  · subst hi
    simp
  · have hlast : ¬ (e.properties ++ [p].toArray).size - 1 = i := by
      simp
      omega
    rw [if_neg hlast, Array.getElem?_append, Array.getElem?_append]
    by_cases hlt : i < e.properties.size
    · rw [if_pos hlt, if_pos hlt]
    · rw [if_neg hlt, if_neg hlt, List.getElem?_toArray, List.getElem?_toArray,
        List.getElem?_eq_none (by simp; omega), List.getElem?_eq_none (by simp; omega)]

end ModelEntity

namespace ModelBuilder

variable {b b' : ModelBuilder} {es : Array ModelEntity} {e : ModelEntity}

theorem of_applyAll_cons {call : ModelCall} {calls : List ModelCall}
    (h : b.applyAll (call :: calls) = (.ok (), b')) :
    ∃ next, b.apply call = .ok next ∧ next.applyAll calls = (.ok (), b') := by
  rw [applyAll] at h
  cases ha : b.apply call with
  | error e =>
    rw [ha] at h
    cases h
  | ok next =>
    rw [ha] at h
    exact ⟨next, rfl, h⟩

theorem of_applyAll_append {xs ys : List ModelCall}
    (h : b.applyAll (xs ++ ys) = (.ok (), b')) :
    ∃ next, b.applyAll xs = (.ok (), next) ∧ next.applyAll ys = (.ok (), b') := by
  induction xs generalizing b with
  | nil => exact ⟨b, rfl, h⟩
  | cons call xs ih =>
    obtain ⟨first, ha, h⟩ := of_applyAll_cons h
    obtain ⟨next, hx, hy⟩ := ih h
    refine ⟨next, ?_, hy⟩
    rw [applyAll, ha]
    exact hx

theorem onLast_push {operation : ModelOperation} {f : ModelEntity → Except ModelError ModelEntity}
    (hb : b.entities = es.push e) :
    b.onLast operation f = (f e).map fun e' => { b with entities := es.push e' } := by
  simp only [onLast, hb, Array.back?_push, Array.pop_push]
  cases f e <;> rfl

/-- The calls of a field give the entity added last the property that the field describes. -/
theorem of_field_calls {f : BoundField} (hb : b.entities = es.push e)
    (h : b.applyAll f.modelCalls = (.ok (), b')) :
    b'.entities = es.push (e.extend [f.modelProperty]) := by
  obtain ⟨next, ha, h⟩ := of_applyAll_cons h
  rw [apply, onLast_push hb] at ha
  obtain ⟨e', hadd, rfl⟩ := map_eq_ok.mp ha
  rw [ModelEntity.of_addProperty hadd] at h
  by_cases hf : f.property.flags.isEmpty = true
  · have hnone : f.property.flags = .none := by
      have hbits : f.property.flags.bits = 0 := by simpa [PropertyFlags.isEmpty] using hf
      cases hflags : f.property.flags
      rw [hflags] at hbits
      exact congrArg PropertyFlags.mk hbits
    rw [if_pos hf] at h
    cases h
    rw [BoundField.modelProperty, hnone]
  · rw [if_neg hf] at h
    obtain ⟨last, hl, h⟩ := of_applyAll_cons h
    cases h
    rw [apply, onLast_push rfl, ModelEntity.addFlags_extend] at hl
    cases hl
    have hunion : PropertyFlags.none.union f.property.flags = f.property.flags := by
      simp [PropertyFlags.union, PropertyFlags.none]
    rw [BoundField.modelProperty, hunion]

theorem of_fields_calls {fields : List BoundField} (hb : b.entities = es.push e)
    (h : b.applyAll (fields.flatMap BoundField.modelCalls) = (.ok (), b')) :
    b'.entities = es.push (e.extend (fields.map BoundField.modelProperty)) := by
  induction fields generalizing b e with
  | nil =>
    cases h
    rw [List.map_nil, ModelEntity.extend_nil, hb]
  | cons f fields ih =>
    rw [List.flatMap_cons] at h
    obtain ⟨next, hf, h⟩ := of_applyAll_append h
    rw [ih (of_field_calls hb hf) h, ModelEntity.extend_cons, List.map_cons]

/-- The calls of a binding add its entity. -/
theorem of_binding_calls {binding : Binding} (h : b.applyAll binding.modelCalls = (.ok (), b')) :
    b'.entities = b.entities.push binding.modelEntity := by
  rw [Binding.modelCalls, List.cons_append] at h
  obtain ⟨first, ha, h⟩ := of_applyAll_cons h
  obtain ⟨next, hf, h⟩ := of_applyAll_append h
  obtain ⟨last, hl, h⟩ := of_applyAll_cons h
  cases h
  obtain ⟨-, ha⟩ := ite_error_eq_ok.mp ha
  obtain ⟨-, ha⟩ := ite_error_eq_ok.mp ha
  cases ha
  have hfields := of_fields_calls rfl hf
  rw [apply, onLast_push hfields] at hl
  cases hl
  simp [ModelEntity.extend, Binding.modelEntity]

theorem of_bindings_calls {bindings : List Binding} {last : Option IdUid}
    (h : b.applyAll (Binding.modelCallsOf bindings last) = (.ok (), b')) :
    b'.entities = b.entities ++ (bindings.map Binding.modelEntity).toArray := by
  induction bindings generalizing b with
  | nil =>
    cases last with
    | none =>
      cases h
      simp
    | some id =>
      obtain ⟨next, ha, h⟩ := of_applyAll_cons h
      cases h
      cases ha
      simp
  | cons binding bindings ih =>
    rw [Binding.modelCallsOf, List.flatMap_cons, List.append_assoc] at h
    obtain ⟨next, hb, h⟩ := of_applyAll_append h
    rw [ih h, of_binding_calls hb]
    simp

end ModelBuilder

/-- A model that bindings have built holds the entity of each of them. -/
theorem Binding.Builds.entity?_eq {bindings : List Binding} {last : Option IdUid} {model : Model}
    (h : Builds bindings last model) {b : Binding} (hb : b ∈ bindings) :
    model.entity? b.entity.id = some b.modelEntity := by
  have hnodup := (of_builds h).1
  obtain ⟨builder, ha, hbuild⟩ := h
  have hentities := ModelBuilder.of_bindings_calls ha
  obtain ⟨e, he⟩ : ∃ e, model.entity? b.entity.id = some e :=
    (of_builds ⟨builder, ha, hbuild⟩).2 b hb
  rw [he]
  rw [Model.entity?, ModelBuilder.entities_build hbuild, hentities] at he
  have hid := Array.find?_some he
  have hmem := Array.mem_of_find?_eq_some he
  simp only [ModelBuilder.empty, Array.empty_append, List.mem_toArray, List.mem_map] at hmem
  obtain ⟨other, ho, rfl⟩ := hmem
  have hsame : other.entity.id = b.entity.id := by simpa [modelEntity] using hid
  rw [List.inj_on_of_nodup_map hnodup ho hb hsame]

end RecordStore

import RecordStore.Binding.Basic
import RecordStore.Proofs.Outcome

/-! The entities of a model that calls have built: one for each call that adds an entity, each with
an id of its own. -/
namespace RecordStore

/-- The entity id that a call gives, if it adds an entity. -/
def ModelCall.entityId? : ModelCall → Option UInt32
  | entity _ id _ => some id
  | _ => none

namespace ModelEntity

theorem id_addProperty {e e' : ModelEntity} {name : String} {type : PropertyType} {id : UInt32}
    {uid : UInt64} (h : e.addProperty name type id uid = .ok e') : e'.id = e.id := by
  obtain ⟨-, h⟩ := ite_error_eq_ok.mp h
  obtain ⟨-, he⟩ := ite_error_eq_ok.mp h
  cases he
  rfl

theorem id_addFlags {e e' : ModelEntity} {flags : PropertyFlags}
    (h : e.addFlags flags = .ok e') : e'.id = e.id := by
  obtain ⟨-, he⟩ := ite_error_eq_ok.mp h
  cases he
  rfl

end ModelEntity

namespace ModelBuilder

variable {b b' : ModelBuilder}

def ids (b : ModelBuilder) : List UInt32 := b.entities.toList.map (·.id)

theorem ids_onLast {operation : ModelOperation}
    {f : ModelEntity → Except ModelError ModelEntity}
    (hf : ∀ e e', f e = .ok e' → e'.id = e.id) (h : b.onLast operation f = .ok b') :
    b'.ids = b.ids := by
  rw [onLast] at h
  cases hb : b.entities.back? with
  | none =>
    rw [hb] at h
    cases h
  | some e =>
    rw [hb] at h
    obtain ⟨e', he, h⟩ := bind_eq_ok.mp h
    cases h
    have hsplit : b.entities.toList = b.entities.toList.dropLast ++ [e] := by
      rw [← Array.getLast?_toList] at hb
      obtain ⟨hne, hl⟩ := List.getLast?_eq_some_iff.mp hb
      rw [hl, List.dropLast_concat]
    have hold : b.ids = b.entities.toList.dropLast.map (·.id) ++ [e.id] := by
      rw [ids, hsplit, List.map_append, List.dropLast_concat]
      rfl
    rw [hold, ids, Array.toList_push, Array.toList_pop, List.map_append, List.map_cons,
      List.map_nil, hf e e' he]

/-- A call adds the id that it gives, which has to be a new one. -/
theorem ids_apply {call : ModelCall} (h : b.apply call = .ok b') :
    b'.ids = b.ids ++ call.entityId?.toList ∧ ∀ id ∈ call.entityId?, id ∉ b.ids := by
  cases call with
  | entity name id uid =>
    rw [apply, addEntity] at h
    obtain ⟨-, h⟩ := ite_error_eq_ok.mp h
    obtain ⟨hnew, he⟩ := ite_error_eq_ok.mp h
    cases he
    refine ⟨by simp [ids, ModelCall.entityId?], ?_⟩
    rintro _ ⟨⟩ hm
    obtain ⟨e, he, hid⟩ := List.mem_map.mp hm
    have hany : b.entities.any (·.id == id) = true := by
      rw [Array.any_eq_true']
      exact ⟨e, Array.mem_toList_iff.mp he, by simp [hid]⟩
    exact hnew hany
  | property name type id uid =>
    rw [apply] at h
    have hids := ids_onLast (fun e e' he => ModelEntity.id_addProperty he) h
    exact ⟨by simp [hids, ModelCall.entityId?], nofun⟩
  | flags flags =>
    rw [apply] at h
    have hids := ids_onLast (fun e e' he => ModelEntity.id_addFlags he) h
    exact ⟨by simp [hids, ModelCall.entityId?], nofun⟩
  | lastPropertyId last =>
    rw [apply] at h
    have hids := ids_onLast (fun e e' he => by cases he; rfl) h
    exact ⟨by simp [hids, ModelCall.entityId?], nofun⟩
  | lastEntityId last =>
    cases h
    exact ⟨by simp [ids, ModelCall.entityId?], nofun⟩

/-- Calls add the ids that they give, none of them twice. -/
theorem ids_applyAll {calls : List ModelCall} (hb : b.ids.Nodup)
    (h : b.applyAll calls = (.ok (), b')) :
    b'.ids = b.ids ++ calls.filterMap ModelCall.entityId? ∧ b'.ids.Nodup := by
  induction calls generalizing b with
  | nil =>
    cases h
    simp [hb]
  | cons call calls ih =>
    rw [applyAll] at h
    cases ha : b.apply call with
    | error e =>
      rw [ha] at h
      cases h
    | ok next =>
      rw [ha] at h
      obtain ⟨hids, hnew⟩ := ids_apply ha
      have hnext : next.ids.Nodup := by
        rw [hids]
        cases hc : call.entityId? with
        | none => simpa using hb
        | some id =>
          rw [Option.toList_some, List.nodup_append]
          refine ⟨hb, by simp, ?_⟩
          rintro a ha _ hid rfl
          rw [List.mem_singleton] at hid
          exact hnew id hc (hid ▸ ha)
      obtain ⟨hrest, hnodup⟩ := ih hnext h
      refine ⟨?_, hnodup⟩
      rw [hrest, hids, List.filterMap_cons]
      cases call.entityId? <;> simp

theorem entities_build {model : Model} (h : b.build = .ok model) : model.entities = b.entities := by
  simp only [build, throw_eq_error, error_bind] at h
  obtain ⟨-, h⟩ := ite_error_eq_ok.mp h
  obtain ⟨-, -, he⟩ := bind_eq_ok.mp h
  cases he
  rfl

end ModelBuilder

namespace Binding

/-- The calls that build a model of bindings; the last entity id may be given. -/
def modelCallsOf (bindings : List Binding) (last : Option IdUid) : List ModelCall :=
  bindings.flatMap modelCalls ++ last.toList.map .lastEntityId

/-- The model that bindings build together. -/
def Builds (bindings : List Binding) (last : Option IdUid) (model : Model) : Prop :=
  ∃ builder, ModelBuilder.empty.applyAll (modelCallsOf bindings last) = (.ok (), builder) ∧
    builder.build = .ok model

theorem entityIds_modelCalls (b : Binding) :
    b.modelCalls.filterMap ModelCall.entityId? = [b.entity.id] := by
  have hfields (fields : List BoundField) :
      (fields.flatMap BoundField.modelCalls).filterMap ModelCall.entityId? = [] := by
    rw [List.filterMap_eq_nil_iff]
    intro call hc
    obtain ⟨f, -, hf⟩ := List.mem_flatMap.mp hc
    rw [BoundField.modelCalls] at hf
    split at hf
    · rw [List.mem_singleton] at hf
      subst hf
      rfl
    · simp only [List.mem_cons, List.not_mem_nil, or_false] at hf
      rcases hf with rfl | rfl <;> rfl
  rw [modelCalls, List.cons_append, List.filterMap_cons, ModelCall.entityId?,
    List.filterMap_append, hfields]
  rfl

theorem entityIds_modelCallsOf (bindings : List Binding) (last : Option IdUid) :
    (modelCallsOf bindings last).filterMap ModelCall.entityId? =
      bindings.map fun b => b.entity.id := by
  have hlast : (last.toList.map ModelCall.lastEntityId).filterMap ModelCall.entityId? = [] := by
    cases last <;> rfl
  rw [modelCallsOf, List.filterMap_append, hlast, List.append_nil, List.filterMap_flatMap]
  simp only [entityIds_modelCalls]
  induction bindings with
  | nil => rfl
  | cons b bindings ih => simp [ih]

/-- Bindings that build a model have entities with different ids, and the model has each of
them. -/
theorem of_builds {bindings : List Binding} {last : Option IdUid} {model : Model}
    (h : Builds bindings last model) :
    (bindings.map fun b => b.entity.id).Nodup ∧
      ∀ b ∈ bindings, ∃ e, model.entity? b.entity.id = some e := by
  obtain ⟨builder, ha, hb⟩ := h
  have hnil : ModelBuilder.empty.ids = [] := rfl
  obtain ⟨hids, hnodup⟩ := ModelBuilder.ids_applyAll (by simp [hnil]) ha
  rw [hnil, List.nil_append, entityIds_modelCallsOf] at hids
  refine ⟨hids ▸ hnodup, ?_⟩
  intro b hmem
  have hid : b.entity.id ∈ builder.ids := by
    rw [hids]
    exact List.mem_map_of_mem hmem
  obtain ⟨e, he, heq⟩ := List.mem_map.mp hid
  have hsome : (model.entity? b.entity.id).isSome = true := by
    rw [Model.entity?, ModelBuilder.entities_build hb, Array.find?_isSome]
    exact ⟨e, Array.mem_toList_iff.mp he, by simp [heq]⟩
  exact Option.isSome_iff_exists.mp hsome

end Binding

end RecordStore

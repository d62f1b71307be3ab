import RecordStore.Proofs.Model.Building
import RecordStore.Proofs.Model.Edit

/-! What a call on a model builder can do, and what holds of the entities and properties under
construction: ids and uids are set, and ids are distinct. -/
namespace RecordStore

namespace ModelEntity

variable {e e' : ModelEntity}

@[simp] theorem id_extend (e : ModelEntity) (properties : List ModelProperty) :
    (e.extend properties).id = e.id := rfl

@[simp] theorem uid_extend (e : ModelEntity) (properties : List ModelProperty) :
    (e.extend properties).uid = e.uid := rfl

@[simp] theorem toList_extend (e : ModelEntity) (properties : List ModelProperty) :
    (e.extend properties).properties.toList = e.properties.toList ++ properties := by
  simp [extend]

theorem mem_extend {p : ModelProperty} {properties : List ModelProperty} :
    p ∈ (e.extend properties).properties ↔ p ∈ e.properties ∨ p ∈ properties := by
  rw [← Array.mem_toList_iff, toList_extend, List.mem_append, Array.mem_toList_iff]

theorem addProperty_eq_ok {name : String} {type : PropertyType} {id : UInt32} {uid : UInt64} :
    e.addProperty name type id uid = .ok e' ↔
      id ≠ 0 ∧ uid ≠ 0 ∧ id ∉ e.properties.toList.map ModelProperty.id ∧
        e' = e.extend [⟨id, uid, name, type, .none⟩] := by
  constructor
  · intro h
    have he := of_addProperty h
    obtain ⟨hset, h⟩ := ite_error_eq_ok.mp h
    obtain ⟨hnew, -⟩ := ite_error_eq_ok.mp h
    rw [Bool.or_eq_true, beq_iff_eq, beq_iff_eq, not_or] at hset
    refine ⟨hset.1, hset.2, ?_, he⟩
    intro hm
    obtain ⟨p, hp, hid⟩ := List.mem_map.mp hm
    refine hnew ?_
    rw [property?, Array.find?_isSome]
    exact ⟨p, Array.mem_toList_iff.mp hp, by simp [hid]⟩
  · rintro ⟨hid, huid, hnew, rfl⟩
    obtain ⟨made, hm⟩ := exists_addProperty name type hid huid hnew
    rw [hm, of_addProperty hm]

theorem addFlags_eq_ok {flags : PropertyFlags} :
    e.addFlags flags = .ok e' ↔
      ∃ (front : ModelEntity) (p : ModelProperty), e = front.extend [p] ∧
        e' = front.extend [{ p with flags := p.flags.union flags }] := by
  constructor
  · intro h
    obtain ⟨hne, -⟩ := ite_error_eq_ok.mp h
    obtain ⟨ps, p, hps⟩ : ∃ (ps : Array ModelProperty) (p : ModelProperty),
        e.properties = ps.push p :=
      Array.exists_push_of_ne_empty fun hnil => hne (by simp [hnil])
    rw [eq_extend hps, addFlags_extend] at h
    cases h
    exact ⟨_, p, eq_extend hps, rfl⟩
  · rintro ⟨front, p, rfl, rfl⟩
    exact addFlags_extend front p flags

end ModelEntity

namespace ModelBuilder

variable {b b' : ModelBuilder} {call : ModelCall}

/-- What a call does that succeeds. -/
inductive Steps (b : ModelBuilder) : ModelCall → ModelBuilder → Prop
  | entity {name : String} {id : UInt32} {uid : UInt64} (hid : id ≠ 0) (huid : uid ≠ 0)
    (hnew : id ∉ b.ids) :
    Steps b (.entity name id uid)
      { b with entities := b.entities.push ⟨id, uid, name, #[], none⟩ }
  | property {es : Array ModelEntity} {e : ModelEntity} {name : String} {type : PropertyType}
    {id : UInt32} {uid : UInt64} (hb : b.entities = es.push e) (hid : id ≠ 0) (huid : uid ≠ 0)
    (hnew : id ∉ e.properties.toList.map ModelProperty.id) :
    Steps b (.property name type id uid)
      { b with entities := es.push (e.extend [⟨id, uid, name, type, .none⟩]) }
  | flags {es : Array ModelEntity} {e : ModelEntity} {p : ModelProperty} {flags : PropertyFlags}
    (hb : b.entities = es.push (e.extend [p])) :
    Steps b (.flags flags)
      { b with entities := es.push (e.extend [{ p with flags := p.flags.union flags }]) }
  | lastPropertyId {es : Array ModelEntity} {e : ModelEntity} {last : IdUid}
    (hb : b.entities = es.push e) :
    Steps b (.lastPropertyId last)
      { b with entities := es.push { e with lastPropertyId := some last } }
  | lastEntityId {last : IdUid} : Steps b (.lastEntityId last) { b with lastEntityId := some last }

theorem of_onLast {operation : ModelOperation} {f : ModelEntity → Except ModelError ModelEntity}
    (h : b.onLast operation f = .ok b') :
    ∃ (es : Array ModelEntity) (e e' : ModelEntity), b.entities = es.push e ∧ f e = .ok e' ∧
      b' = { b with entities := es.push e' } := by
  cases hback : b.entities.back? with
  | none =>
    rw [onLast, hback] at h
    cases h
  | some e =>
    obtain ⟨es, hb⟩ := Array.back?_eq_some_iff.mp hback
    rw [onLast_push hb] at h
    obtain ⟨e', he, rfl⟩ := map_eq_ok.mp h
    exact ⟨es, e, e', hb, he, rfl⟩

theorem addEntity_eq_ok {name : String} {id : UInt32} {uid : UInt64} :
    b.addEntity name id uid = .ok b' ↔ id ≠ 0 ∧ uid ≠ 0 ∧ id ∉ b.ids ∧
      b' = { b with entities := b.entities.push ⟨id, uid, name, #[], none⟩ } := by
  have hids : b.entities.any (·.id == id) = true ↔ id ∈ b.ids := by
    rw [Array.any_eq_true', ids, List.mem_map]
    simp only [Array.mem_toList_iff, beq_iff_eq]
  rw [addEntity, ite_error_eq_ok, ite_error_eq_ok, hids, Bool.or_eq_true, beq_iff_eq, beq_iff_eq,
    not_or, and_assoc, Except.ok.injEq, eq_comm (b := b')]

theorem apply_eq_ok : b.apply call = .ok b' ↔ b.Steps call b' := by
  constructor
  · intro h
    cases call with
    | entity name id uid =>
      obtain ⟨hid, huid, hnew, rfl⟩ := addEntity_eq_ok.mp h
      exact .entity hid huid hnew
    | property name type id uid =>
      obtain ⟨es, e, e', hb, he, rfl⟩ := of_onLast h
      obtain ⟨hid, huid, hnew, rfl⟩ := ModelEntity.addProperty_eq_ok.mp he
      exact .property hb hid huid hnew
    | flags flags =>
      obtain ⟨es, e, e', hb, he, rfl⟩ := of_onLast h
      obtain ⟨front, p, rfl, rfl⟩ := ModelEntity.addFlags_eq_ok.mp he
      exact .flags hb
    | lastPropertyId last =>
      obtain ⟨es, e, e', hb, he, rfl⟩ := of_onLast h
      cases he
      exact .lastPropertyId hb
    | lastEntityId last =>
      cases h
      exact .lastEntityId
  · intro h
    cases h with
    | entity hid huid hnew => exact addEntity_eq_ok.mpr ⟨hid, huid, hnew, rfl⟩
    | property hb hid huid hnew =>
      rw [apply, onLast_push hb, ModelEntity.addProperty_eq_ok.mpr ⟨hid, huid, hnew, rfl⟩]
      rfl
    | flags hb =>
      rw [apply, onLast_push hb, ModelEntity.addFlags_extend]
      rfl
    | lastPropertyId hb =>
      rw [apply, onLast_push hb]
      rfl
    | lastEntityId => rfl

theorem Steps.next (h : b.Steps call b') : b.next call = b' := next_of_apply (apply_eq_ok.mpr h)

/-- A call that can do no step changes nothing. -/
theorem next_cases (b : ModelBuilder) (call : ModelCall) :
    (b.next call = b ∧ ∀ b', ¬ b.Steps call b') ∨ b.Steps call (b.next call) := by
  cases ha : b.apply call with
  | error e =>
    refine .inl ⟨next_of_error ha, fun b' hs => ?_⟩
    rw [apply_eq_ok.mpr hs] at ha
    cases ha
  | ok b' =>
    rw [next_of_apply ha]
    exact .inr (apply_eq_ok.mp ha)

end ModelBuilder

/-- The ids and uids of an entity and its properties are set, and no two properties share an id. -/
structure ModelEntity.Identified (e : ModelEntity) : Prop where
  id_ne_zero : e.id ≠ 0
  uid_ne_zero : e.uid ≠ 0
  properties : ∀ p ∈ e.properties, p.id ≠ 0 ∧ p.uid ≠ 0
  nodup : (e.properties.toList.map ModelProperty.id).Nodup

/-- All entities are identified, and no two share an id. -/
structure ModelBuilder.Identified (b : ModelBuilder) : Prop where
  nodup : b.ids.Nodup
  entities : ∀ e ∈ b.entities, e.Identified

namespace ModelEntity.Identified

variable {e : ModelEntity} {p : ModelProperty}

theorem extend (h : e.Identified) (hid : p.id ≠ 0) (huid : p.uid ≠ 0)
    (hnew : p.id ∉ e.properties.toList.map ModelProperty.id) : (e.extend [p]).Identified := by
  refine ⟨h.id_ne_zero, h.uid_ne_zero, ?_, ?_⟩
  · intro q hq
    rcases mem_extend.mp hq with hq | hq
    · exact h.properties q hq
    · rw [List.mem_singleton.mp hq]
      exact ⟨hid, huid⟩
  · rw [toList_extend, List.map_append, List.nodup_append_comm, List.map_singleton,
      List.singleton_append, List.nodup_cons]
    exact ⟨hnew, h.nodup⟩

/-- A property that keeps its id and uid may be changed. -/
theorem replace (h : (e.extend [p]).Identified) {q : ModelProperty} (hid : q.id = p.id)
    (huid : q.uid = p.uid) : (e.extend [q]).Identified := by
  refine ⟨h.id_ne_zero, h.uid_ne_zero, ?_, ?_⟩
  · intro r hr
    rcases mem_extend.mp hr with hr | hr
    · exact h.properties r (mem_extend.mpr (.inl hr))
    · rw [List.mem_singleton.mp hr, hid, huid]
      exact h.properties p (mem_extend.mpr (.inr (by simp)))
  · have hn := h.nodup
    rw [toList_extend, List.map_append, List.map_singleton] at hn ⊢
    rwa [hid]

end ModelEntity.Identified

namespace ModelBuilder.Identified

variable {b b' : ModelBuilder} {call : ModelCall}

theorem of_empty : empty.Identified := ⟨by simp [ids, empty], by simp [empty]⟩

theorem eq_of_id (h : b.Identified) {e f : ModelEntity} (he : e ∈ b.entities)
    (hf : f ∈ b.entities) (hid : e.id = f.id) : e = f :=
  List.inj_on_of_nodup_map h.nodup (Array.mem_toList_iff.mpr he) (Array.mem_toList_iff.mpr hf) hid

/-- An entity that keeps its id may be changed. -/
theorem replace (h : b.Identified) {es : Array ModelEntity} {e e' : ModelEntity}
    (hb : b.entities = es.push e) (hid : e'.id = e.id) (he : e.Identified → e'.Identified) :
    Identified { b with entities := es.push e' } := by
  have hn := h.nodup
  rw [ids, hb, Array.toList_push, List.map_append, List.map_singleton] at hn
  refine ⟨?_, ?_⟩
  · rw [ids, Array.toList_push, List.map_append, List.map_singleton, hid]
    exact hn
  · intro f hf
    rcases Array.mem_push.mp hf with hf | rfl
    · exact h.entities f (by rw [hb]; exact Array.mem_push.mpr (.inl hf))
    · exact he (h.entities e (by rw [hb]; exact Array.mem_push.mpr (.inr rfl)))

theorem step (h : b.Identified) (hs : b.Steps call b') : b'.Identified := by
  cases hs with
  | entity hid huid hnew =>
    refine ⟨?_, ?_⟩
    · rw [ids, Array.toList_push, List.map_append, List.nodup_append_comm, List.map_singleton,
        List.singleton_append, List.nodup_cons]
      exact ⟨hnew, h.nodup⟩
    · intro e he
      rcases Array.mem_push.mp he with he | rfl
      · exact h.entities e he
      · exact ⟨hid, huid, by simp, by simp⟩
  | property hb hid huid hnew => exact h.replace hb rfl fun he => he.extend hid huid hnew
  | flags hb => exact h.replace hb rfl fun he => he.replace rfl rfl
  | lastPropertyId hb =>
    exact h.replace hb rfl fun he => ⟨he.id_ne_zero, he.uid_ne_zero, he.properties, he.nodup⟩
  | lastEntityId => exact ⟨h.nodup, h.entities⟩

theorem next (h : b.Identified) (call : ModelCall) : (b.next call).Identified := by
  rcases b.next_cases call with ⟨he, -⟩ | hs
  · rw [he]
    exact h
  · exact h.step hs

theorem after (h : b.Identified) (calls : List ModelCall) : (b.after calls).Identified := by
  induction calls generalizing b with
  | nil => exact h
  | cons call calls ih => exact ih (h.next call)

end ModelBuilder.Identified

end RecordStore

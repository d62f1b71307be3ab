import RecordStore.Model.Edit
import RecordStore.Proofs.Model.Registration

/-! Changing a model builder in place comes to the same as computing the builder that follows: a
call that fails has changed nothing. -/
namespace RecordStore

theorem ModelEntity.eq_extend {e : ModelEntity} {ps : Array ModelProperty} {p : ModelProperty}
    (h : e.properties = ps.push p) :
    e = ({ e with properties := ps } : ModelEntity).extend [p] := by
  cases e
  simp only at h
  simp [extend, h]

namespace ModelEdit

variable {b : ModelBuilder}

/-- A computed builder as a change: an error leaves the builder as it is. -/
@[simp] def settle (b : ModelBuilder) :
    Except ModelError ModelBuilder → EStateM.Result ModelError ModelBuilder Unit
  | .ok next => .ok () next
  | .error e => .error e b

@[simp] theorem run_throw {α : Type} (e : ModelError) :
    (throw e : ModelEdit α).run b = .error e b := rfl

theorem run_addEntity (name : String) (id : UInt32) (uid : UInt64) :
    (addEntity name id uid).run b = settle b (b.addEntity name id uid) := by
  rw [addEntity, ModelBuilder.addEntity]
  by_cases hset : (id == 0 || uid == 0) = true
  · simp [-bind_pure_comp, hset]
  · cases hany : b.entities.any (·.id == id) <;>
      simp [-bind_pure_comp, -Array.any_eq_true, hset, hany]

/-- A change to the entity added last, which has to be there. -/
theorem run_current {operation : ModelOperation} {f : ModelEntity → ModelEdit Unit}
    {g : ModelEntity → Except ModelError ModelEntity}
    (hf : ∀ e, b.entities.back? = some e → (f e).run b =
      settle b ((g e).map fun e' => { b with entities := b.entities.pop.push e' })) :
    (current operation >>= f).run b = settle b (b.onLast operation g) := by
  rw [current, ModelBuilder.onLast]
  cases he : b.entities.back? with
  | none => simp [-bind_pure_comp, he]
  | some e =>
    have hrun := hf e he
    cases hg : g e <;> simp [-bind_pure_comp, he, hrun, hg, Except.map]

theorem run_addProperty (name : String) (type : PropertyType) (id : UInt32) (uid : UInt64) :
    (addProperty name type id uid).run b =
      settle b (b.onLast .property (·.addProperty name type id uid)) := by
  refine run_current fun e _ => ?_
  rw [ModelEntity.addProperty]
  by_cases hset : (id == 0 || uid == 0) = true
  · simp [-bind_pure_comp, hset, Except.map]
  · by_cases hfind : (e.property? id).isSome <;>
      simp [-bind_pure_comp, hset, hfind, setCurrent, Except.map]

theorem run_addFlags (flags : PropertyFlags) :
    (addFlags flags).run b = settle b (b.onLast .flags (·.addFlags flags)) := by
  refine run_current fun e _ => ?_
  cases hp : e.properties.back? with
  | none =>
    have hnil : e.properties = #[] := Array.back?_eq_none_iff.mp hp
    simp [-bind_pure_comp, ModelEntity.addFlags, hnil, Except.map]
  | some p =>
    obtain ⟨ps, hps⟩ := Array.back?_eq_some_iff.mp hp
    have hadd := ModelEntity.addFlags_extend { e with properties := ps } p flags
    rw [← ModelEntity.eq_extend hps] at hadd
    simp [-bind_pure_comp, hadd, hps, setCurrent, Except.map, ModelEntity.extend]

theorem run_edit (call : ModelCall) : call.edit.run b = settle b (b.apply call) := by
  cases call with
  | entity name id uid => exact run_addEntity name id uid
  | property name type id uid => exact run_addProperty name type id uid
  | flags flags => exact run_addFlags flags
  | lastPropertyId id => exact run_current fun e _ => rfl
  | lastEntityId id => rfl

end ModelEdit

namespace ModelBuilder

variable {b : ModelBuilder}

theorem perform_edit (call : ModelCall) :
    b.perform call.edit =
      match b.apply call with
      | .ok next => (.ok (), next)
      | .error e => (.error e, b) := by
  rw [perform, ModelEdit.run_edit]
  cases b.apply call <;> rfl

/-- Calls in place do what they do one by one, up to the first that fails. -/
theorem performAll_eq (calls : List ModelCall) : b.performAll calls = b.applyAll calls := by
  induction calls generalizing b with
  | nil => rfl
  | cons call calls ih =>
    have hcons : (call :: calls).forM ModelCall.edit =
        call.edit >>= fun _ => calls.forM ModelCall.edit := rfl
    rw [performAll, perform, hcons, EStateM.run_bind, ModelEdit.run_edit, applyAll]
    cases b.apply call with
    | error e => rfl
    | ok next => exact ih

variable {b' : ModelBuilder} {call : ModelCall} {e : ModelError}

theorem next_of_apply (h : b.apply call = .ok b') : b.next call = b' := by
  rw [next, perform_edit, h]

theorem next_of_error (h : b.apply call = .error e) : b.next call = b := by
  rw [next, perform_edit, h]

/-- A call that fails has changed nothing. -/
theorem next_of_reply_error (h : b.reply call = .error e) : b.next call = b := by
  rw [reply, perform_edit] at h
  cases ha : b.apply call with
  | error e => exact next_of_error ha
  | ok b' =>
    rw [ha] at h
    cases h

@[simp] theorem after_append (calls more : List ModelCall) :
    b.after (calls ++ more) = (b.after calls).after more := List.foldl_append

@[simp] theorem after_singleton (call : ModelCall) : b.after [call] = b.next call := rfl

theorem after_cons (call : ModelCall) (calls : List ModelCall) :
    b.after (call :: calls) = (b.next call).after calls := rfl

end ModelBuilder

end RecordStore

import Mathlib.Data.List.Induction
import RecordStore.Proofs.Model.Steps

/-! Which properties calls mark as identifiers: those that a call gave the flag while they were the
property added last. -/
namespace RecordStore

namespace PropertyFlags

variable (f g : PropertyFlags)

theorem contains_identifier : f.contains .identifier = true ↔ f.bits.toNat % 2 = 1 := by
  rw [contains, identifier, beq_iff_eq, ← UInt32.toNat_inj, UInt32.toNat_and,
    ← Nat.and_one_is_mod]
  rfl

theorem contains_identifier_union :
    (f.union g).contains .identifier = true ↔
      f.contains .identifier = true ∨ g.contains .identifier = true := by
  rw [contains_identifier, contains_identifier, contains_identifier, bits_union, UInt32.toNat_or]
  exact Nat.or_mod_two_eq_one

end PropertyFlags

namespace ModelBuilder

/-- The property that flags go to: the one added last, to the entity added last. -/
def Current (b : ModelBuilder) (entity property : UInt32) : Prop :=
  ∃ e p, b.entities.back? = some e ∧ e.properties.back? = some p ∧ e.id = entity ∧
    p.id = property

/-- An entity with a property. -/
def Has (b : ModelBuilder) (entity property : UInt32) : Prop :=
  ∃ e ∈ b.entities, e.id = entity ∧ ∃ p ∈ e.properties, p.id = property

/-- A call gave a property the flag of an identifier. -/
def Marked (calls : List ModelCall) (entity property : UInt32) : Prop :=
  ∃ before flags after, calls = before ++ .flags flags :: after ∧
    flags.contains .identifier = true ∧ (empty.after before).Current entity property

variable {b b' : ModelBuilder} {call : ModelCall} {es : Array ModelEntity} {e : ModelEntity}
  {p : ModelProperty} {entity property : UInt32}

theorem current_push (hb : b.entities = es.push (e.extend [p])) :
    b.Current entity property ↔ e.id = entity ∧ p.id = property := by
  have hp : (e.extend [p]).properties.back? = some p := by simp [ModelEntity.extend]
  rw [Current, hb, Array.back?_push]
  constructor
  · rintro ⟨_, q, ⟨⟩, hq, rfl, rfl⟩
    rw [hp] at hq
    cases hq
    exact ⟨rfl, rfl⟩
  · rintro ⟨rfl, rfl⟩
    exact ⟨_, p, rfl, hp, rfl, rfl⟩

theorem Current.exists_push (h : b.Current entity property) :
    ∃ (es : Array ModelEntity) (e : ModelEntity) (p : ModelProperty),
      b.entities = es.push (e.extend [p]) ∧ e.id = entity ∧ p.id = property := by
  obtain ⟨e, p, hb, hp, rfl, rfl⟩ := h
  obtain ⟨es, hes⟩ := Array.back?_eq_some_iff.mp hb
  obtain ⟨ps, hps⟩ := Array.back?_eq_some_iff.mp hp
  exact ⟨es, { e with properties := ps }, p, by rw [hes, ← ModelEntity.eq_extend hps], rfl, rfl⟩

theorem Current.has (h : b.Current entity property) : b.Has entity property := by
  obtain ⟨es, e, p, hb, rfl, rfl⟩ := h.exists_push
  refine ⟨e.extend [p], by simp [hb], rfl, p, ?_, rfl⟩
  exact ModelEntity.mem_extend.mpr (.inr (by simp))

/-- Changing the entity added last keeps the properties if that entity does. -/
theorem Has.replace {e' : ModelEntity} (h : b.Has entity property) (hb : b.entities = es.push e)
    (hid : e'.id = e.id)
    (hp : ∀ p ∈ e.properties, ∃ p' ∈ e'.properties, p'.id = p.id) :
    Has { b with entities := es.push e' } entity property := by
  obtain ⟨f, hf, rfl, p, hm, rfl⟩ := h
  rw [hb] at hf
  rcases Array.mem_push.mp hf with hf | rfl
  · exact ⟨f, Array.mem_push.mpr (.inl hf), rfl, p, hm, rfl⟩
  · exact ⟨e', Array.mem_push.mpr (.inr rfl), hid, hp p hm⟩

theorem Has.step (h : b.Has entity property) (hs : b.Steps call b') : b'.Has entity property := by
  cases hs with
  | entity =>
    obtain ⟨e, he, hp⟩ := h
    exact ⟨e, Array.mem_push.mpr (.inl he), hp⟩
  | property hb =>
    exact h.replace hb rfl fun p hp => ⟨p, ModelEntity.mem_extend.mpr (.inl hp), rfl⟩
  | flags hb =>
    refine h.replace hb rfl fun p hp => ?_
    rcases ModelEntity.mem_extend.mp hp with hp | hp
    · exact ⟨p, ModelEntity.mem_extend.mpr (.inl hp), rfl⟩
    · rw [List.mem_singleton.mp hp]
      exact ⟨_, ModelEntity.mem_extend.mpr (.inr (List.mem_singleton.mpr rfl)), rfl⟩
  | lastPropertyId hb => exact h.replace hb rfl fun p hp => ⟨p, hp, rfl⟩
  | lastEntityId => exact h

theorem Has.after (h : b.Has entity property) (calls : List ModelCall) :
    (b.after calls).Has entity property := by
  induction calls generalizing b with
  | nil => exact h
  | cons call calls ih =>
    rcases b.next_cases call with ⟨he, -⟩ | hs
    · rw [after_cons, he]
      exact ih h
    · exact ih (h.step hs)

/-- A property that was marked is there. -/
theorem Marked.has {calls : List ModelCall} (h : Marked calls entity property) :
    (empty.after calls).Has entity property := by
  obtain ⟨before, flags, after, rfl, -, hc⟩ := h
  rw [after_append]
  exact hc.has.after _

theorem marked_append {calls : List ModelCall} :
    Marked (calls ++ [call]) entity property ↔ Marked calls entity property ∨
      ∃ flags, call = .flags flags ∧ flags.contains .identifier = true ∧
        (empty.after calls).Current entity property := by
  constructor
  · rintro ⟨before, flags, after, h, hf, hc⟩
    rcases List.eq_nil_or_concat after with rfl | ⟨after, last, rfl⟩
    · obtain ⟨rfl, h⟩ := List.append_inj' h rfl
      exact .inr ⟨flags, by simpa using h, hf, hc⟩
    · refine .inl ⟨before, flags, after, ?_, hf, hc⟩
      rw [List.concat_eq_append, ← List.cons_append, ← List.append_assoc] at h
      exact (List.append_inj' h rfl).1
  · rintro (⟨before, flags, after, rfl, hf, hc⟩ | ⟨flags, rfl, hf, hc⟩)
    · exact ⟨before, flags, after ++ [call], by simp, hf, hc⟩
    · exact ⟨calls, flags, [], rfl, hf, hc⟩

/-- Whether a property is an identifier is as the calls marked it. -/
def Shows (b : ModelBuilder) (marked : UInt32 → UInt32 → Prop) : Prop :=
  ∀ e ∈ b.entities, ∀ p ∈ e.properties, p.isIdentifier = true ↔ marked e.id p.id

variable {marked : UInt32 → UInt32 → Prop}

/-- The properties of entities that were there keep showing what is marked, unless their flags
change. -/
theorem Shows.replace {e' : ModelEntity} (h : b.Shows marked) (hb : b.entities = es.push e)
    (he' : ∀ p ∈ e'.properties, p.isIdentifier = true ↔ marked e'.id p.id) :
    Shows { b with entities := es.push e' } marked := by
  intro f hf p hp
  rcases Array.mem_push.mp hf with hf | rfl
  · exact h f (by rw [hb]; exact Array.mem_push.mpr (.inl hf)) p hp
  · exact he' p hp

/-- A call marks the property that it gives the flag, and no other call marks anything. -/
theorem Shows.step (h : b.Shows marked) (hi : b.Identified)
    (hhas : ∀ entity property, marked entity property → b.Has entity property)
    (hs : b.Steps call b') :
    b'.Shows fun entity property => marked entity property ∨
      ∃ flags, call = .flags flags ∧ flags.contains .identifier = true ∧
        b.Current entity property := by
  cases hs with
  | entity hid huid hnew =>
    simp only [reduceCtorEq, false_and, exists_false, or_false]
    intro e he p hp
    rcases Array.mem_push.mp he with he | rfl
    · exact h e he p hp
    · simp at hp
  | @property es e name type id uid hb hid huid hnew =>
    simp only [reduceCtorEq, false_and, exists_false, or_false]
    have hmem : e ∈ b.entities := by simp [hb]
    refine h.replace hb fun p hp => ?_
    rcases ModelEntity.mem_extend.mp hp with hp | hp
    · exact h e hmem p hp
    · -- The new property has no flags, and nothing can have marked it.
      rw [List.mem_singleton.mp hp]
      refine iff_of_false (by simp [ModelProperty.isIdentifier, PropertyFlags.contains,
        PropertyFlags.none, PropertyFlags.identifier]) fun hm => ?_
      obtain ⟨f, hf, hfid, q, hq, hqid⟩ := hhas _ _ hm
      obtain rfl := hi.eq_of_id hf hmem hfid
      exact hnew (List.mem_map.mpr ⟨q, Array.mem_toList_iff.mpr hq, hqid⟩)
  | @flags es e p flags hb =>
    have hmem : e.extend [p] ∈ b.entities := by simp [hb]
    have hp : p ∈ (e.extend [p]).properties := ModelEntity.mem_extend.mpr (.inr (by simp))
    have hnodup := hi.nodup
    rw [ids, hb, Array.toList_push, List.map_append, List.nodup_append] at hnodup
    have hdistinct := (hi.entities _ hmem).nodup
    rw [ModelEntity.toList_extend, List.map_append, List.nodup_append] at hdistinct
    have hmarks (entity property : UInt32) :
        (∃ flags', ModelCall.flags flags = .flags flags' ∧ flags'.contains .identifier = true ∧
          b.Current entity property) ↔
        flags.contains .identifier = true ∧ e.id = entity ∧ p.id = property := by
      rw [← current_push hb]
      simp
    intro f hf q hq
    simp only [hmarks]
    rcases Array.mem_push.mp hf with hf | rfl
    · have hne : e.id ≠ f.id := fun he => hnodup.2.2 f.id
        (List.mem_map_of_mem (Array.mem_toList_iff.mpr hf)) e.id (by simp) he.symm
      rw [h f (by rw [hb]; exact Array.mem_push.mpr (.inl hf)) q hq]
      simp [hne]
    · rcases ModelEntity.mem_extend.mp hq with hq | hq
      · have hne : p.id ≠ q.id := fun he => hdistinct.2.2 q.id
          (List.mem_map_of_mem (Array.mem_toList_iff.mpr hq)) p.id (by simp) he.symm
        rw [h _ hmem q (ModelEntity.mem_extend.mpr (.inl hq))]
        simp [hne]
      · rw [List.mem_singleton.mp hq, ModelProperty.isIdentifier,
          PropertyFlags.contains_identifier_union, ← ModelProperty.isIdentifier, h _ hmem p hp]
        simp
  | @lastPropertyId es e last hb =>
    simp only [reduceCtorEq, false_and, exists_false, or_false]
    exact h.replace hb fun p hp => h e (by simp [hb]) p hp
  | lastEntityId =>
    simp only [reduceCtorEq, false_and, exists_false, or_false]
    exact h

/-- A property is an identifier if a call gave it the flag while it was the one added last. -/
theorem shows_marked (calls : List ModelCall) : (empty.after calls).Shows (Marked calls) := by
  induction calls using List.reverseRecOn with
  | nil => simp [Shows, after, empty]
  | append_singleton calls call ih =>
    have hi := Identified.of_empty.after calls
    rw [after_append, after_singleton]
    intro e he p hp
    rw [marked_append]
    rcases (empty.after calls).next_cases call with ⟨hsame, hfails⟩ | hs
    · rw [hsame] at he
      rw [ih e he p hp]
      -- Flags do not fail while there is a property to take them.
      refine (or_iff_left ?_).symm
      rintro ⟨flags, rfl, -, hc⟩
      obtain ⟨es, front, q, hb, -⟩ := hc.exists_push
      exact hfails _ (.flags hb)
    · exact ih.step hi (fun entity property h => h.has) hs e he p hp

end ModelBuilder

end RecordStore

import RecordStore.Proofs.Outcome
import RecordStore.Schema.Load

/-! Entities that took their properties one after the other, as every schema that was built or
loaded holds them: the slot of a property is its place. An entity whose properties were set
otherwise need not have them so, and nothing that accepts schemas looks at the slots. -/
namespace RecordStore

namespace Entity

/-- The slot of each property is its place among the properties, as far as 16 bits can say. -/
def Assembled (e : Entity) : Prop :=
  ∀ (i : Nat) (p : Property), e.properties[i]? = some p → p.slot = UInt16.ofNat (min i 65535)

theorem assembled_ofName (id : IdUid) (name : String) (last : IdUid) :
    (ofName id name last).Assembled := by
  intro i p h
  simp [ofName] at h

namespace Assembled

variable {e : Entity}

theorem push (h : e.Assembled) (p : Property) : (e.push p).Assembled := by
  intro i q hq
  rw [Entity.push, Array.getElem?_push] at hq
  by_cases hi : i = e.properties.size
  · rw [if_pos hi] at hq
    cases hq
    rw [hi]
  · rw [if_neg hi] at hq
    exact h i q hq

theorem resolveIdentifier (h : e.Assembled) : e.resolveIdentifier.Assembled := by
  rw [Entity.resolveIdentifier]
  by_cases hs : e.identifier.isSome
  · rw [if_pos hs]
    exact h
  · rw [if_neg hs]
    cases hf : e.properties.findIdx? (·.name == "id") with
    | none => exact h
    | some j =>
      intro i p hp
      simp only [Array.getElem?_modify] at hp
      by_cases hj : j = i
      · rw [if_pos hj] at hp
        obtain ⟨q, hq, rfl⟩ := Option.map_eq_some_iff.mp hp
        exact h i q hq
      · rw [if_neg hj] at hp
        exact h i p hp

end Assembled

/-- The entity took the properties one after the other, and then had its identifier resolved or
not. -/
inductive Took : List Property → Bool → Entity → Prop
  | nothing (id : IdUid) (name : String) (last : IdUid) : Took [] false (ofName id name last)
  | push {ps : List Property} {e : Entity} (p : Property) :
      Took ps false e → Took (ps ++ [p]) false (e.push p)
  | resolve {ps : List Property} {e : Entity} : Took ps false e → Took ps true e.resolveIdentifier

namespace Took

variable {e : Entity} {ps : List Property} {resolved : Bool}

theorem assembled (h : e.Took ps resolved) : e.Assembled := by
  induction h with
  | nothing id name last => exact assembled_ofName id name last
  | push p _ ih => exact ih.push p
  | resolve _ ih => exact ih.resolveIdentifier

theorem foldl_push {taken : List Property} (h : e.Took taken false) (ps : List Property) :
    (ps.foldl Entity.push e).Took (taken ++ ps) false := by
  induction ps generalizing taken e with
  | nil => rwa [List.append_nil]
  | cons p ps ih =>
    have hrest := ih (h.push p)
    rwa [List.append_assoc, List.singleton_append] at hrest

theorem foldl_resolve (id : IdUid) (name : String) (last : IdUid) (ps : List Property) :
    (ps.foldl Entity.push (ofName id name last)).resolveIdentifier.Took ps true :=
  ((nothing id name last).foldl_push ps).resolve

end Took

/-- An entity that was read took its properties in the order of the text. -/
theorem Draft.took_finish (d : Draft) : d.finish.Took (d.properties.getD []) true :=
  Took.foldl_resolve _ _ _ _

end Entity

namespace Schema

/-- The slot of each property is its place, in every entity. -/
def Assembled (s : Schema) : Prop := ∀ e ∈ s.entities, e.Assembled

theorem assembled_empty (last : IdUid) : (empty last).Assembled := by
  intro e he
  simp [empty] at he

theorem Assembled.push {s : Schema} (h : s.Assembled) {e : Entity} (he : e.Assembled) :
    (s.push e).Assembled := by
  intro e' he'
  rcases Array.mem_push.mp he' with hm | rfl
  · exact h e' hm
  · exact he

/-- The schema took its entities one after the other, and each of them its properties. -/
inductive Built : Schema → Prop
  | nothing (last : IdUid) : Built (empty last)
  | push {s : Schema} {e : Entity} {ps : List Property} {resolved : Bool} :
      Built s → e.Took ps resolved → Built (s.push e)

theorem Built.assembled {s : Schema} (h : s.Built) : s.Assembled := by
  induction h with
  | nothing last => exact assembled_empty last
  | push _ he ih => exact ih.push he.assembled

end Schema

theorem Json.Value.of_list {α : Type} {read : Json.Value → Json.Outcome α} {v : Json.Value}
    {xs : List α} (h : v.list read = .ok xs) : ∀ x ∈ xs, ∃ w, read w = .ok x := by
  intro x hx
  cases v with
  | array items ending =>
    obtain ⟨ys, hm, h⟩ := bind_eq_ok.mp h
    obtain ⟨-, -, he⟩ := bind_eq_ok.mp h
    cases he
    obtain ⟨w, -, hw⟩ := mem_of_mapM hm hx
    exact ⟨w, hw⟩
  | _ =>
    obtain ⟨_, _, he⟩ := bind_eq_ok.mp h
    cases he

namespace Json.Shape

variable {δ : Type} {shape : Shape δ} {P : δ → Prop}

/-- What every field keeps of a draft, reading members keeps. -/
theorem of_readMember (hf : ∀ f ∈ shape.fields, ∀ v d d', P d → f.read v d = .ok d' → P d')
    {d d' : δ} {m : Member} (hd : P d) (h : shape.readMember d m = .ok d') : P d' := by
  cases m with
  | pair key v =>
    rw [readMember] at h
    obtain ⟨name, -, h⟩ := bind_eq_ok.mp h
    cases hfind : shape.fields.find? (·.name == name) with
    | none =>
      rw [hfind] at h
      obtain ⟨-, -, he⟩ := bind_eq_ok.mp h
      cases he
      exact hd
    | some f =>
      rw [hfind] at h
      exact hf f (List.mem_of_find?_eq_some hfind) v d d' hd (ite_error_eq_ok.mp h).2
  | brokenKey read skipped => cases h
  | stray v => cases h

theorem of_readPlaces {fields : List (Field δ)}
    (hf : ∀ f ∈ fields, ∀ v d d', P d → f.read v d = .ok d' → P d') {index : Nat}
    {ending : Option Error} {items : List Value} {d d' : δ} (hd : P d)
    (h : shape.readPlaces index ending fields items d = .ok d') : P d' := by
  induction fields generalizing index items d with
  | nil =>
    cases items with
    | nil =>
      obtain ⟨-, -, he⟩ := bind_eq_ok.mp h
      cases he
      exact hd
    | cons v items => cases h
  | cons f fields ih =>
    have hrest : ∀ g ∈ fields, ∀ v d d', P d → g.read v d = .ok d' → P d' :=
      fun g hg => hf g (List.mem_cons_of_mem _ hg)
    cases items with
    | nil =>
      obtain ⟨-, -, h⟩ := bind_eq_ok.mp h
      exact ih hrest hd (ite_error_eq_ok.mp h).2
    | cons v items =>
      obtain ⟨next, hn, h⟩ := bind_eq_ok.mp h
      exact ih hrest (hf f (by simp) v d next hd hn) h

theorem of_read (hf : ∀ f ∈ shape.fields, ∀ v d d', P d → f.read v d = .ok d' → P d')
    {start d : δ} (hs : P start) {v : Value} (h : shape.read start v = .ok d) : P d := by
  have hmembers {members : List Member} {start d : δ} (hs : P start)
      (h : members.foldlM shape.readMember start = .ok d) : P d := by
    induction members generalizing start with
    | nil =>
      cases h
      exact hs
    | cons m members ih =>
      obtain ⟨next, hn, h⟩ := bind_eq_ok.mp h
      exact ih (of_readMember hf hs hn) h
  cases v with
  | object members ending =>
    obtain ⟨draft, hd, h⟩ := bind_eq_ok.mp h
    obtain ⟨-, -, h⟩ := bind_eq_ok.mp h
    rw [complete] at h
    split at h
    · cases h
    · cases h
      exact hmembers hs hd
  | array items ending => exact of_readPlaces hf hs h
  | _ =>
    obtain ⟨_, _, he⟩ := bind_eq_ok.mp h
    cases he

end Json.Shape

namespace Schema

/-- What holds of every entity that a draft becomes holds of all entities of a schema that was
read. -/
theorem of_ofValue {P : Entity → Prop} (hP : ∀ d : Entity.Draft, P d.finish) {v : Json.Value}
    {s : Schema} (h : ofValue v = .ok s) : ∀ e ∈ s.entities, P e := by
  obtain ⟨d, hd, he⟩ := bind_eq_ok.mp h
  cases he
  have hread : ∀ e ∈ d.entities.getD [], P e := by
    refine Json.Shape.of_read (P := fun d : Draft => ∀ e ∈ d.entities.getD [], P e)
      ?_ ?_ hd
    · intro f hf v d d' hd hr
      rcases List.mem_cons.mp hf with rfl | hf
      · obtain ⟨id, -, he⟩ := bind_eq_ok.mp hr
        cases he
        exact hd
      · rw [List.mem_singleton] at hf
        subst hf
        obtain ⟨es, hes, he⟩ := bind_eq_ok.mp hr
        cases he
        intro e he
        obtain ⟨w, hw⟩ := Json.Value.of_list hes e he
        obtain ⟨draft, -, hfinish⟩ := bind_eq_ok.mp hw
        cases hfinish
        exact hP draft
    · intro e he
      cases he
  intro e he
  rw [Draft.finish, List.mem_toArray] at he
  exact hread e he

theorem of_parse {P : Entity → Prop} (hP : ∀ d : Entity.Draft, P d.finish) {text : String}
    {s : Schema} (h : parse text = .ok s) : ∀ e ∈ s.entities, P e := by
  obtain ⟨read, hr, h⟩ := bind_eq_ok.mp h
  obtain ⟨-, he⟩ := ite_error_eq_ok.mp h
  cases he
  exact of_ofValue hP hr

/-- Every entity of a schema that was read took its properties in order. -/
theorem assembled_of_parse {text : String} {s : Schema} (h : parse text = .ok s) :
    s.Assembled := of_parse (fun d => d.took_finish.assembled) h

end Schema

end RecordStore

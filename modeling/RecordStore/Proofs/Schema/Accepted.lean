import RecordStore.Proofs.Outcome
import RecordStore.Proofs.Record.RoundTrip
import RecordStore.Proofs.Schema.Assembled
import RecordStore.Proofs.Schema.Validity
import RecordStore.Source.Unit

/-! Schemas that source is generated for: what they promise of their entities and bindings. -/
namespace RecordStore

namespace Entity

variable {e : Entity}

/-- What an accepted entity promises of its properties. -/
theorem of_issues_eq_nil (h : e.issues = []) :
    0 < e.slotCount.toNat ∧ e.properties.size ≤ maxProperties ∧
      e.properties.size ≤ e.slotCount.toNat ∧
      ∃ p, e.properties.toList.filter Property.isIdentifier = [p] ∧ p.type = .field .u64 := by
  have hv := issues_eq_nil_iff_valid.mp h
  refine ⟨UInt32.pos_iff_ne_zero.mpr hv.last_ne_zero, hv.count_le, hv.count_le_last, ?_⟩
  have hone := hv.identifier
  rw [List.countP_eq_length_filter, List.length_eq_one_iff] at hone
  obtain ⟨p, hp⟩ := hone
  obtain ⟨hmem, hid⟩ := List.mem_filter.mp (hp ▸ List.mem_singleton_self p)
  exact ⟨p, hp, hv.identifier_type p (Array.mem_toList_iff.mp hmem) hid⟩

end Entity

theorem findIdx_of_filter_eq_singleton {α : Type} {p : α → Bool} {a : α} {xs : List α}
    (h : xs.filter p = [a]) :
    xs.findIdx p < xs.length ∧
      ∀ (i : Nat) (x : α), xs[i]? = some x → (p x = true ↔ i = xs.findIdx p) := by
  induction xs with
  | nil => simp at h
  | cons y xs ih =>
    rw [List.filter_cons] at h
    rw [List.findIdx_cons]
    by_cases hy : p y = true
    · rw [if_pos hy, List.cons.injEq, List.filter_eq_nil_iff] at h
      refine ⟨by simp [hy], ?_⟩
      intro i x hx
      cases i with
      | zero =>
        cases hx
        simp [hy]
      | succ i =>
        have hn := h.2 x (List.mem_of_getElem? hx)
        simp [hy, hn]
    · rw [if_neg hy] at h
      obtain ⟨hlt, hi⟩ := ih h
      refine ⟨by simp [hy, hlt], ?_⟩
      intro i x hx
      cases i with
      | zero =>
        cases hx
        simp [hy]
      | succ i => simp [hy, hi i x hx]

namespace BoundField

variable {e : Entity} {p : Property} {f : BoundField}

theorem encodingOf_eq_ok {t : FieldType} :
    encodingOf e p = .ok t ↔
      p.type = .field t ∧ p.placement = p.type.placement ∧ p.storeType = p.type.storeType := by
  rw [encodingOf]
  cases ht : p.type with
  | textList => simp
  | field u =>
    simp only [ite_error_eq_ok, not_not, Except.ok.injEq, SemanticType.field.injEq]
    constructor
    · rintro ⟨hp, hs, rfl⟩
      exact ⟨rfl, hp, hs⟩
    · rintro ⟨rfl, hp, hs⟩
      exact ⟨hp, hs, rfl⟩

theorem of_ofProperty (h : ofProperty e p = .ok f) :
    f.property = p ∧ encodingOf e p = .ok f.type := by
  obtain ⟨type, ht, h⟩ := bind_eq_ok.mp h
  obtain ⟨name, -, h⟩ := bind_eq_ok.mp h
  obtain ⟨child, -, h⟩ := bind_eq_ok.mp h
  obtain ⟨handle, -, he⟩ := bind_eq_ok.mp h
  cases he
  exact ⟨rfl, ht⟩

end BoundField

namespace Binding

variable {e : Entity} {b : Binding}

/-- A binding is of its entity, and binds the properties one by one. -/
theorem mapM_of_ofEntity (h : ofEntity e = .ok b) :
    b.entity = e ∧ e.properties.toList.mapM (BoundField.ofProperty e) = .ok b.fields := by
  obtain ⟨fields, hf, h⟩ := bind_eq_ok.mp h
  cases hi : fields.find? (·.property.isIdentifier) with
  | none =>
    rw [hi] at h
    cases h
  | some identifier =>
    rw [hi] at h
    obtain ⟨record, -, h⟩ := bind_eq_ok.mp h
    obtain ⟨boxFunction, -, he⟩ := bind_eq_ok.mp h
    cases he
    exact ⟨rfl, hf⟩

theorem of_ofEntity (h : ofEntity e = .ok b) :
    b.entity = e ∧ b.fields.map BoundField.property = e.properties.toList ∧
      ∀ f ∈ b.fields, BoundField.encodingOf e f.property = .ok f.type := by
  obtain ⟨he, hf⟩ := mapM_of_ofEntity h
  refine ⟨he, ?_, ?_⟩
  · rw [map_of_mapM (g := fun p => p) hf fun p f ho => (BoundField.of_ofProperty ho).1,
      List.map_id']
  · intro f hmem
    obtain ⟨p, -, ho⟩ := mem_of_mapM hf hmem
    obtain ⟨rfl, ht⟩ := BoundField.of_ofProperty ho
    exact ht

theorem wellFormed_of_ofEntity (ha : e.Assembled) (hi : e.issues = [])
    (h : ofEntity e = .ok b) : b.WellFormed := by
  obtain ⟨rfl, hfields, htypes⟩ := of_ofEntity h
  obtain ⟨-, -, hcount, p, hfilter, hp⟩ := Entity.of_issues_eq_nil hi
  have hlen : b.fields.length = b.entity.properties.size := by
    rw [← Array.length_toList, ← hfields, List.length_map]
  have hproperty {i : Nat} {f : BoundField} (hf : b.fields[i]? = some f) :
      b.entity.properties.toList[i]? = some f.property := by
    rw [← hfields, List.getElem?_map, hf, Option.map_some]
  have hindex : b.identifierIndex = b.entity.properties.toList.findIdx Property.isIdentifier := by
    rw [← hfields, List.findIdx_map]
    rfl
  obtain ⟨hlt, hplace⟩ := findIdx_of_filter_eq_singleton hfilter
  refine ⟨?_, by rw [hlen]; exact hcount, ?_, ?_, ?_⟩
  · intro i f hf
    refine ha i f.property ?_
    rw [← Array.getElem?_toList]
    exact hproperty hf
  · intro f hf hid
    obtain ⟨i, hfi⟩ := List.mem_iff_getElem?.mp hf
    have hmem : f.property ∈ b.entity.properties.toList.filter Property.isIdentifier :=
      List.mem_filter.mpr ⟨List.mem_of_getElem? (hproperty hfi), hid⟩
    rw [hfilter, List.mem_singleton] at hmem
    have ht := (BoundField.encodingOf_eq_ok.mp (htypes f hf)).1
    rw [hmem, hp] at ht
    exact (SemanticType.field.inj ht).symm
  · intro i f hf
    rw [hindex]
    exact hplace i f.property (hproperty hf)
  · rw [hindex, hlen, ← Array.length_toList]
    exact hlt

end Binding

namespace Schema

variable {s : Schema} {config : Config} {source : GeneratedSource}

/-- A schema with generated source is valid, and the source spells out its bindings and its model. -/
theorem source_of_generate (h : s.generate config = .ok source) :
    s.validate = .ok () ∧ ∃ path bindings function, s.bindings = .ok bindings ∧
      source = ⟨bindings.map (·.unit path config.fileSuffix) ++
        [⟨config.modelFunction ++ config.fileSuffix,
          (s.modelCode path function bindings).text⟩], config.fileSuffix⟩ := by
  obtain ⟨⟨⟩, hv, h⟩ := bind_eq_ok.mp h
  cases hp : Source.Path.parse? config.runtimePath with
  | none =>
    rw [hp] at h
    cases h
  | some path =>
    rw [hp] at h
    obtain ⟨bindings, hb, h⟩ := bind_eq_ok.mp h
    obtain ⟨function, -, h⟩ := bind_eq_ok.mp h
    refine ⟨?_, path, bindings, function, hb, (Except.ok.inj h).symm⟩
    cases hs : s.validate with
    | error e =>
      rw [hs] at hv
      cases hv
    | ok u => rfl

theorem of_generate (h : s.generate config = .ok source) :
    s.validate = .ok () ∧ ∃ bindings, s.bindings = .ok bindings := by
  obtain ⟨hv, -, bindings, -, hb, -⟩ := source_of_generate h
  exact ⟨hv, bindings, hb⟩

/-- Every entity of a schema with generated source has a binding. -/
theorem exists_ofEntity (h : s.generate config = .ok source) {e : Entity} (he : e ∈ s.entities) :
    ∃ b, Binding.ofEntity e = .ok b := by
  obtain ⟨-, bindings, hb⟩ := of_generate h
  obtain ⟨b, -, ho⟩ := exists_of_mapM hb (Array.mem_toList_iff.mpr he)
  exact ⟨b, ho⟩

/-- The binding is well-formed if the slots of the properties are their places. -/
theorem exists_binding (h : s.generate config = .ok source) {e : Entity} (he : e ∈ s.entities)
    (ha : e.Assembled) : ∃ b, Binding.ofEntity e = .ok b ∧ b.WellFormed := by
  obtain ⟨b, ho⟩ := exists_ofEntity h he
  exact ⟨b, ho, Binding.wellFormed_of_ofEntity ha ((validate_eq_ok.mp (of_generate h).1).1 e he) ho⟩

end Schema

end RecordStore

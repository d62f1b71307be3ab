import RecordStore.Engine.Cursor
import RecordStore.Proofs.Buffer.Reading
import RecordStore.Proofs.Query.Comparand
import RecordStore.Proofs.Record.RoundTrip

/-! Which records a query selects. Accepted conditions never fail on a row that decodes, and go by
the values of its record. -/
namespace RecordStore

open Buffer

/-- An accepted condition is on a property, and its slot stands in the directory. -/
theorem ModelEntity.of_accept {e : ModelEntity} {c : Condition} (h : e.accept c = .ok ()) :
    ∃ i p offset, e.property? c.property.propertyId = some p ∧
      e.properties.findIdx? (·.id == c.property.propertyId) = some i ∧
      e.target c = .ok (p, offset) ∧ i < UInt16.size ∧
      slotOffset (UInt16.ofNat i) = .ok offset ∧ c.test.applies p.type = true := by
  obtain ⟨⟨p, offset⟩, ht, ha⟩ := bind_eq_ok.mp h
  have happlies : c.test.applies p.type = true := by
    by_cases happ : c.test.applies p.type = true
    · exact happ
    · simp [happ] at ha
  have htarget := ht
  simp only [target, throw_eq_error, error_bind, pure_eq_ok] at ht
  obtain ⟨-, ht⟩ := ite_error_eq_ok.mp ht
  obtain ⟨slot, hslot, ht⟩ := bind_eq_ok.mp ht
  cases hp : e.property? c.property.propertyId with
  | none => simp [hp] at ht
  | some q =>
    cases slot with
    | none => simp [hp] at ht
    | some o =>
      simp only [hp] at ht
      cases ht
      rw [slotOffset?] at hslot
      cases hindex : e.properties.findIdx? (·.id == c.property.propertyId) with
      | none =>
        rw [hindex] at hslot
        cases hslot
      | some i =>
        rw [hindex] at hslot
        by_cases hi : i < UInt16.size
        · simp only [if_pos hi] at hslot
          cases ho : slotOffset (UInt16.ofNat i) with
          | error e =>
            rw [ho] at hslot
            cases hslot
          | ok position =>
            rw [ho] at hslot
            cases hslot
            exact ⟨i, p, offset, rfl, rfl, htarget, hi, ho, happlies⟩
        · simp only [if_neg hi] at hslot
          cases hslot

/-- Conditions that each come out hold together if all of them do. -/
theorem ModelEntity.satisfiesAll_of_satisfies {e : ModelEntity} {table : Table}
    {holds : Condition → Bool} {conditions : List Condition}
    (h : ∀ c ∈ conditions, e.satisfies table c = .ok (holds c)) :
    e.satisfiesAll table conditions = .ok (conditions.all holds) := by
  induction conditions with
  | nil => rfl
  | cons c rest ih =>
    rw [satisfiesAll, h c List.mem_cons_self, ok_bind, List.all_cons]
    cases holds c with
    | false => rfl
    | true => exact ih fun c' hc' => h c' (List.mem_cons_of_mem _ hc')

namespace Binding

variable {b : Binding}

/-- The field of a property, and the value that a record has for it. -/
def fieldOf? (b : Binding) (r : Record b.types) (propertyId : UInt32) :
    Option (BoundField × Value) :=
  (b.fields.zip r.values).find? (·.1.property.id == propertyId)

/-- Whether the value of a record satisfies a condition. -/
def satisfies (b : Binding) (r : Record b.types) (c : Condition) : Bool :=
  match b.fieldOf? r c.property.propertyId with
  | some (_, v) => v.comparand.passes c.test
  | none => false

/-- Whether a value satisfies a condition if it is taken for what the flags of its property make of
it. -/
def meets (b : Binding) (r : Record b.types) (c : Condition) : Bool :=
  match b.fieldOf? r c.property.propertyId with
  | some (f, v) => (v.comparandAs f.modelProperty.isUnsigned).passes c.test
  | none => false

/-- The fields are stored as their types call for. -/
def StoredByType (b : Binding) : Prop :=
  ∀ f ∈ b.fields, f.property.storeType = f.type.storeType

/-- The first field of a property. -/
structure FirstField (b : Binding) (propertyId : UInt32) (i : Nat) (f : BoundField) : Prop where
  getElem?_eq : b.fields[i]? = some f
  id_eq : (f.property.id == propertyId) = true
  first : ∀ j < i, ∀ g, b.fields[j]? = some g → (g.property.id == propertyId) = false

/-- The store knows a property by its first field, at the field's place. -/
theorem exists_firstField {id : UInt32} {p : ModelProperty}
    (h : b.modelEntity.property? id = some p) :
    ∃ i f, b.FirstField id i f ∧ p = f.modelProperty ∧
      b.modelEntity.properties.findIdx? (·.id == id) = some i := by
  simp only [ModelEntity.property?, modelEntity, List.find?_toArray, List.find?_map] at h
  obtain ⟨f, hf, rfl⟩ := Option.map_eq_some_iff.mp h
  obtain ⟨hid, i, hi, rfl, hfirst⟩ := List.find?_eq_some_iff_getElem.mp hf
  have hbefore : ∀ j (hj : j < i), ¬ (b.fields[j].property.id == id) = true := by
    intro j hj
    have hn := hfirst j hj
    simpa [BoundField.modelProperty] using hn
  refine ⟨i, _, ⟨List.getElem?_eq_getElem hi, hid, ?_⟩, rfl, ?_⟩
  · intro j hj g hg
    have hlt := Nat.lt_trans hj hi
    rw [List.getElem?_eq_getElem hlt, Option.some.injEq] at hg
    rw [← hg]
    exact Bool.eq_false_iff.mpr (hbefore j hj)
  · simp only [modelEntity, List.findIdx?_toArray, List.findIdx?_map]
    exact List.findIdx?_eq_some_iff_getElem.mpr ⟨hi, hid, hbefore⟩

theorem FirstField.fieldOf?_eq {id : UInt32} {i : Nat} {f : BoundField} (h : b.FirstField id i f)
    {r : Record b.types} {v : Value} (hv : r.values[i]? = some v) :
    b.fieldOf? r id = some (f, v) := by
  obtain ⟨hf, hid, hfirst⟩ := h
  obtain ⟨hi, rfl⟩ := List.getElem?_eq_some_iff.mp hf
  obtain ⟨hv', rfl⟩ := List.getElem?_eq_some_iff.mp hv
  refine List.find?_eq_some_iff_getElem.mpr ⟨hid, i, ?_, ?_, ?_⟩
  · rw [List.length_zip]
    omega
  · rw [List.getElem_zip]
  · intro j hj
    rw [List.getElem_zip]
    simp [hfirst j hj _ (List.getElem?_eq_getElem (Nat.lt_trans hj hi))]

/-- An accepted condition is on a field, and the directory describes the field's place. -/
theorem of_accept {c : Condition} (h : b.modelEntity.accept c = .ok ()) :
    ∃ i f offset, b.FirstField c.property.propertyId i f ∧
      b.modelEntity.target c = .ok (f.modelProperty, offset) ∧
      offset.toNat = directoryHeaderSize + 2 * i ∧
      c.test.applies f.modelProperty.type = true := by
  obtain ⟨i, p, offset, hp, hindex, htarget, hi, ho, happlies⟩ := ModelEntity.of_accept h
  obtain ⟨j, f, hfirst, rfl, hj⟩ := exists_firstField hp
  rw [hindex, Option.some.injEq] at hj
  subst hj
  refine ⟨i, f, offset, hfirst, htarget, ?_, happlies⟩
  rw [slotOffset_eq_ok.mp ho, UInt16.toNat_ofNat_of_lt' hi]

/-- The directory describes a field where records have it, if 16 bits are enough to say so. -/
theorem directoryOffset_eq (h : b.WellFormed) {i : Nat} {f : BoundField}
    (hf : b.fields[i]? = some f) {offset : UInt16}
    (ho : offset.toNat = directoryHeaderSize + 2 * i) : f.property.directoryOffset = offset := by
  rw [← UInt16.toNat_inj, ho]
  exact Property.toNat_directoryOffset (h.slot_eq hf) (ho ▸ offset.toNat_lt)

/-- What the engine finds when it evaluates an accepted condition on the table of a record. -/
theorem satisfies_eq (h : b.WellFormed) (hs : b.StoredByType) {table : Table} {r : Record b.types}
    (hr : Record.read table b.fields = .ok r) {c : Condition}
    (hc : b.modelEntity.accept c = .ok ()) :
    b.modelEntity.satisfies table c = .ok (b.meets r c) := by
  obtain ⟨i, f, offset, hfirst, htarget, ho, happlies⟩ := of_accept hc
  have hf := hfirst.getElem?_eq
  have hvalues := congrArg (fun xs => xs[i]?) (Record.of_read hr)
  simp only [List.getElem?_map, hf, Option.map_some] at hvalues
  obtain ⟨v, hv, hread⟩ := Option.map_eq_some_iff.mp hvalues.symm
  rw [directoryOffset_eq h hf ho] at hread
  have hpasses := (finds_of_read hread.symm (p := f.modelProperty)
    (hs f (List.mem_of_getElem? hf))).passes_eq happlies
  rw [ModelEntity.satisfies, htarget, ok_bind, meets, hfirst.fieldOf?_eq hv]
  simp only [hpasses]
  rfl

theorem satisfiesAll_eq (h : b.WellFormed) (hs : b.StoredByType) {table : Table}
    {r : Record b.types} (hr : Record.read table b.fields = .ok r) {conditions : List Condition}
    (hc : ∀ c ∈ conditions, b.modelEntity.accept c = .ok ()) :
    b.modelEntity.satisfiesAll table conditions = .ok (conditions.all (b.meets r)) :=
  ModelEntity.satisfiesAll_of_satisfies fun c hm => satisfies_eq h hs hr (hc c hm)

end Binding

end RecordStore

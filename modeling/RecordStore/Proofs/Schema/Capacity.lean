import RecordStore.Proofs.Record.Capacity
import RecordStore.Proofs.Schema.RoundTrip

/-! Which entities of an accepted schema can be stored at all: whether the record of zero and empty
values has an encoding. -/
namespace RecordStore

open Buffer

namespace Value

theorem tableWidth_zero (t : FieldType) :
    (zero t).tableWidth = if (SemanticType.field t).placement = .child then 4 else 0 := by
  cases t <;> rfl

theorem tableWidth_u64 (id : UInt64) : (u64 id).tableWidth = if id = 0 then 0 else 8 := by
  have hsame : Scalar.same id 0 = decide (id = 0) := rfl
  have hcell : (u64 id).tableWidth = ((scalarCell id 0).map Cell.width).getD 0 := rfl
  rw [hcell, scalarCell, hsame]
  by_cases h : id = 0
  · simp [h]
  · simp [h, Cell.width, Scalar.width]

theorem fits_zero (t : FieldType) : (zero t).fits = true := by
  cases t <;> rfl

/-- Outside the table, zero and empty values take up their lengths at most. -/
theorem size_outside_zero (types : List FieldType) :
    (outside (types.map zero)).size ≤ 4 * types.length := by
  induction types with
  | nil => simp [outside]
  | cons t types ih =>
    have ht : (outside [zero t]).size ≤ 4 := by
      cases t <;> decide
    rw [List.map_cons, outside_cons, ByteArray.size_append, List.length_cons]
    omega

end Value

/-- Number of properties whose values lie outside the table. -/
def Entity.childCount (e : Entity) : Nat := e.properties.toList.countP (·.placement == .child)

namespace Binding

theorem sum_tableWidth_zero {fields : List BoundField} (id : UInt64)
    (hid : ∀ f ∈ fields, f.property.isIdentifier = true → f.type = .u64)
    (hplacement : ∀ f ∈ fields, f.property.placement = (SemanticType.field f.type).placement) :
    (fields.map fun f => (stored id f (.zero f.type)).tableWidth).sum =
      4 * fields.countP (·.property.placement == .child) +
        (Value.u64 id).tableWidth * fields.countP (·.property.isIdentifier) := by
  induction fields with
  | nil => rfl
  | cons f fields ih =>
    have hrest := ih (fun g hg => hid g (List.mem_cons_of_mem _ hg))
      (fun g hg => hplacement g (List.mem_cons_of_mem _ hg))
    have hp := hplacement f (by simp)
    rw [List.map_cons, List.sum_cons, hrest, List.countP_cons, List.countP_cons, stored]
    by_cases hi : f.property.isIdentifier
    · have ht := hid f (by simp) hi
      have hinline : (f.property.placement == .child) = false := by
        rw [hp, ht]
        rfl
      rw [if_pos hi, if_pos hi, hinline, Nat.mul_succ]
      simp only [Bool.false_eq_true, if_false]
      omega
    · rw [if_neg hi, if_neg hi, Value.tableWidth_zero, ← hp, Nat.add_zero]
      by_cases hc : f.property.placement = .child
      · simp only [hc, BEq.rfl, if_true]
        omega
      · have hn : (f.property.placement == Placement.child) = false := by simpa using hc
        rw [if_neg hc, hn]
        simp only [Bool.false_eq_true, if_false]
        omega

variable {b : Binding}

theorem values_setId_zero (h : b.WellFormed) (id : UInt64) :
    (b.setId (.zero b.types) id).values = b.fields.map fun f => stored id f (.zero f.type) := by
  rw [values_setId h, Record.values_zero, types, List.map_map, List.zipWith_map_right,
    List.zipWith_self]
  rfl

theorem fits_setId_zero (h : b.WellFormed) (id : UInt64) :
    ∀ v ∈ (b.setId (.zero b.types) id).values, v.fits = true := by
  rw [values_setId_zero h]
  refine List.forall_mem_map.mpr ?_
  intro f hf
  rw [stored]
  by_cases hi : f.property.isIdentifier
  · rw [if_pos hi]
    rfl
  · rw [if_neg hi, Value.fits_zero]

end Binding

namespace Schema

/-- The record of zero and empty values of an entity of an accepted schema can be encoded if the
last property id is no more than the slots of a table, and the references to children and the id
fit the size of a table. -/
theorem encode_zero_iff {s : Schema} {config : Config} {source : GeneratedSource}
    (ha : s.Assembled) (hg : s.generate config = .ok source) {e : Entity} (he : e ∈ s.entities) :
    ∃ b, Binding.ofEntity e = .ok b ∧
      ∀ id : UInt64, (∃ bytes, b.encode (.zero b.types) id = .ok bytes) ↔
        e.lastPropertyId.id.toNat ≤ maxSlots ∧
          4 + 4 * e.childCount + (if id = 0 then 0 else 8) < UInt16.size := by
  obtain ⟨b, hb, hwf⟩ := exists_binding hg he (ha e he)
  obtain ⟨rfl, hfields, htypes⟩ := Binding.of_ofEntity hb
  have hissues := (validate_eq_ok.mp (of_generate hg).1).1 b.entity he
  obtain ⟨-, hcount, -, p, hfilter, -⟩ := Entity.of_issues_eq_nil hissues
  have hlen : b.types.length = b.entity.properties.size := by
    rw [← Array.length_toList, ← hfields, List.length_map, Binding.types, List.length_map]
  have hchildren : b.fields.countP (·.property.placement == .child) = b.entity.childCount := by
    rw [Entity.childCount, ← hfields, List.countP_map]
    rfl
  have hidentifier : b.fields.countP (·.property.isIdentifier) = 1 := by
    have hone : b.entity.properties.toList.countP Property.isIdentifier = 1 := by
      rw [List.countP_eq_length_filter, hfilter]
      rfl
    rw [← hone, ← hfields, List.countP_map]
    rfl
  have hplacement : ∀ f ∈ b.fields,
      f.property.placement = (SemanticType.field f.type).placement := by
    intro f hf
    obtain ⟨ht, hp, -⟩ := BoundField.encodingOf_eq_ok.mp (htypes f hf)
    rw [hp, ht]
  refine ⟨b, hb, ?_⟩
  intro id
  have hroom : headerSize + (Value.outside (Record.zero b.types).values).size +
      2 * UInt16.size ≤ UInt32.size := by
    have := Value.size_outside_zero b.types
    rw [Record.values_zero]
    simp only [headerSize, maxProperties, UInt16.size, UInt32.size] at *
    omega
  have hwidth : ((b.setId (.zero b.types) id).values.map Value.tableWidth).sum =
      4 * b.entity.childCount + (if id = 0 then 0 else 8) := by
    rw [Binding.values_setId_zero hwf, List.map_map, ← Value.tableWidth_u64, ← hchildren]
    have hsum := Binding.sum_tableWidth_zero id (fun f hf => hwf.identifier_type hf) hplacement
    rw [hidentifier, Nat.mul_one] at hsum
    exact hsum
  rw [Binding.exists_encode_iff hwf hroom, hwidth, Entity.slotCount, ← Nat.add_assoc]
  constructor
  · rintro ⟨hslots, -, hsize⟩
    exact ⟨hslots, hsize⟩
  · rintro ⟨hslots, hsize⟩
    exact ⟨hslots, Binding.fits_setId_zero hwf id, hsize⟩

theorem encode_zero_iff_note :
    ∃ b, Binding.ofEntity note = .ok b ∧ ∃ bytes, b.encode (.zero b.types) 1 = .ok bytes := by
  obtain ⟨source, hg⟩ := exists_generate_noteSchema
  obtain ⟨b, hb, h⟩ := encode_zero_iff built_noteSchema.assembled hg
    (show note ∈ noteSchema.entities by simp [noteSchema])
  exact ⟨b, hb, (h 1).mpr (by decide +kernel)⟩

/-- An entity with one property and as many slots as validation lets properties be. -/
def sparse : Entity := Samples.entity 1 1000 "Sparse" ⟨32766, 1002⟩
  [Samples.property 1 1001 "id" .u64]

/-- Source is generated for the entity, and no record of it can ever be stored. -/
theorem encode_zero_sparse :
    (∃ source, generate ⟨#[sparse], ⟨1, 1000⟩⟩ {} = .ok source) ∧
      ∃ b, Binding.ofEntity sparse = .ok b ∧
        b.encode (.zero b.types) 1 = .error (.tooManySlots 32766) := by
  have hencode : (Binding.ofEntity sparse).toOption.any
      (fun b => b.encode (.zero b.types) 1 = .error (.tooManySlots 32766)) = true := by
    decide +kernel
  constructor
  · apply exists_ok
    decide +kernel
  · cases hb : Binding.ofEntity sparse with
    | error e =>
      rw [hb] at hencode
      cases hencode
    | ok b =>
      rw [hb] at hencode
      exact ⟨b, rfl, of_decide_eq_true hencode⟩

end Schema

end RecordStore

import RecordStore.Proofs.Schema.Accepted
import RecordStore.Samples

/-! Records of accepted schemas survive being encoded and decoded where the slots of the properties
are their places. Schemas that were built or read have them so; a schema whose properties were set
otherwise is accepted all the same, and may lose what its records hold. -/
namespace RecordStore

theorem Samples.took_entity (id : UInt32) (uid : UInt64) (name : String) (last : IdUid)
    (properties : List Property) : (entity id uid name last properties).Took properties true :=
  Entity.Took.foldl_resolve _ _ _ _

namespace Schema

/-- What was encoded under an id decodes, and to a record with that id, if the slots of the
properties are their places. Every other field comes back bit by bit, but for floating point zeros,
which are positive afterwards. -/
theorem record_round_trip {s : Schema} {config : Config} {source : GeneratedSource}
    (hg : s.generate config = .ok source) {e : Entity} (he : e ∈ s.entities) (ha : e.Assembled) :
    ∃ b, Binding.ofEntity e = .ok b ∧
      ∀ (r : Record b.types) (id : UInt64) (bytes : ByteArray), b.encode r id = .ok bytes →
        ∃ r', b.decode bytes = .ok r' ∧ b.id r' = id ∧
          ∀ (i : Nat) (f : BoundField) (v : Value),
            b.fields[i]? = some f → r.values[i]? = some v →
              r'.values[i]? = some (if f.property.isIdentifier then .u64 id else v.normalized) := by
  obtain ⟨b, hb, hwf⟩ := exists_binding hg he ha
  refine ⟨b, hb, ?_⟩
  intro r id bytes hencode
  refine ⟨_, Binding.decode_of_encode hwf hencode, ?_, ?_⟩
  · rw [Binding.id_normalized hwf, Binding.id_setId hwf]
  · intro i f v hf hv
    rw [Record.values_normalized, List.getElem?_map, Binding.value_setId hwf hf hv,
      Option.map_some, Binding.stored]
    by_cases hi : f.property.isIdentifier
    · rw [if_pos hi, if_pos hi]
      rfl
    · rw [if_neg hi, if_neg hi]

/-- Notes, which hold a text and a number. -/
def note : Entity := Samples.entity 1 1000 "Note" ⟨3, 1003⟩
  [Samples.property 1 1001 "id" .u64, Samples.property 2 1002 "body" .text,
    Samples.property 3 1003 "mark" .f64]

/-- Tags, which hold their id alone. -/
def tag : Entity := Samples.entity 2 2000 "Tag" ⟨1, 2001⟩ [Samples.property 1 2001 "id" .u64]

def noteSchema : Schema := ⟨#[note, tag], ⟨2, 2000⟩⟩

theorem built_noteSchema : noteSchema.Built :=
  ((Built.nothing ⟨2, 2000⟩).push (Samples.took_entity 1 1000 "Note" ⟨3, 1003⟩ _)).push
    (Samples.took_entity 2 2000 "Tag" ⟨1, 2001⟩ _)

theorem exists_generate_noteSchema : ∃ source, noteSchema.generate {} = .ok source := by
  apply exists_ok
  decide +kernel

/-- A note with a negative zero. -/
def faint : List Value := [.u64 0, .text "a", .f64 ⟨0x8000000000000000⟩]

theorem record_round_trip_faint :
    ∃ b, Binding.ofEntity note = .ok b ∧ ∃ r : Record b.types, r.values = faint ∧
      ∃ bytes r', b.encode r 7 = .ok bytes ∧ b.decode bytes = .ok r' ∧ b.id r' = 7 ∧
        r'.values[2]? = some (.f64 ⟨0⟩) := by
  obtain ⟨source, hg⟩ := exists_generate_noteSchema
  have hmem : note ∈ noteSchema.entities := by simp [noteSchema]
  obtain ⟨b, hb, h⟩ := record_round_trip hg hmem (built_noteSchema.assembled note hmem)
  have hencode : (Binding.ofEntity note).toOption.all (fun b =>
      b.types = faint.map Value.type ∧ b.fields[2]?.map (·.property.isIdentifier) = some false ∧
        ∀ ht : faint.map Value.type = b.types, (b.encode ⟨faint, ht⟩ 7).toOption.isSome) =
      true := by
    decide +kernel
  rw [hb] at hencode
  obtain ⟨ht, hf, hsome⟩ := of_decide_eq_true hencode
  obtain ⟨f, hf, hi⟩ := Option.map_eq_some_iff.mp hf
  obtain ⟨bytes, he⟩ := exists_ok (hsome ht.symm)
  obtain ⟨r', hd, hid, hvalues⟩ := h ⟨faint, ht.symm⟩ 7 bytes he
  have hv := hvalues 2 f (.f64 ⟨0x8000000000000000⟩) hf rfl
  rw [hi] at hv
  exact ⟨b, hb, ⟨faint, ht.symm⟩, rfl, bytes, r', he, hd, hid, hv⟩

/-- Invoices, whose properties were set as they are and never pushed: both have the first slot. -/
def invoice : Entity where
  id := 1
  uid := 1000
  name := "Invoice"
  properties := #[(Samples.property 1 1001 "id" .u64).withFlags .identifier,
    Samples.property 2 1002 "amount" .u32]
  identifier := some 0
  lastPropertyId := ⟨2, 1002⟩

def invoiceSchema : Schema := ⟨#[invoice], ⟨1, 1000⟩⟩

theorem exists_generate_invoiceSchema : ∃ source, invoiceSchema.generate {} = .ok source := by
  apply exists_ok
  decide +kernel

/-- An invoice without an id. -/
def unnumbered : List Value := [.u64 0, .u32 77]

/-- An invoice with an id. -/
def numbered : List Value := [.u64 1, .u32 77]

/-- The id is zero and leaves the slot to the amount. -/
def unnumberedBytes : ByteArray :=
  ⟨#[12, 0, 0, 0, 8, 0, 8, 0, 4, 0, 0, 0, 8, 0, 0, 0, 77, 0, 0, 0]⟩

/-- The invoice is encoded, and its buffer does not decode: its amount is read for the id. -/
theorem record_lost_invoice :
    (∃ source, invoiceSchema.generate {} = .ok source) ∧ invoice ∈ invoiceSchema.entities ∧
      ∃ b, Binding.ofEntity invoice = .ok b ∧ ∃ typed : unnumbered.map Value.type = b.types,
        b.encode ⟨unnumbered, typed⟩ 0 = .ok unnumberedBytes ∧
          b.decode unnumberedBytes = .error (.outOfBounds 16 8 20) := by
  refine ⟨exists_generate_invoiceSchema, by simp [invoiceSchema], exists_ok_and ?_⟩
  decide +kernel

end Schema

end RecordStore

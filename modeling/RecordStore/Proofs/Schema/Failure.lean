import RecordStore.Proofs.Record.Failure
import RecordStore.Proofs.Schema.RoundTrip

/-! The errors of encoding a record of an accepted schema: which there are, and which of them comes
where several things are wrong. -/
namespace RecordStore

open Buffer

namespace Schema

/-- Too many slots are noticed first. If the slots of the properties are their places, then comes
the first value that overflows, and then that the table is too large, and a record in which nothing
of this is wrong is encoded. -/
theorem encode_outcomes {s : Schema} {config : Config} {source : GeneratedSource}
    (hg : s.generate config = .ok source) {e : Entity} (he : e ∈ s.entities) :
    ∃ b, Binding.ofEntity e = .ok b ∧
      ∀ (r : Record b.types) (id : UInt64), b.LeavesRoom r id →
        (maxSlots < e.lastPropertyId.id.toNat →
          b.encode r id = .error (.tooManySlots e.lastPropertyId.id)) ∧
        (e.Assembled →
          (e.lastPropertyId.id.toNat ≤ maxSlots →
            (∀ i v, r.values[i]? = some v → v.Overflows →
              (∀ j < i, ∀ w, r.values[j]? = some w → ¬ w.Overflows) →
                b.encode r id = .error (.slotOverflow (UInt16.ofNat i))) ∧
            ((∀ v ∈ r.values, ¬ v.Overflows) →
              (UInt16.size ≤ b.tableSize r id → ∃ length, UInt16.size ≤ length ∧
                b.encode r id = .error (.tooLarge .table length)) ∧
              (b.tableSize r id < UInt16.size → ∃ bytes, b.encode r id = .ok bytes))) ∧
          ∀ error, b.encode r id = .error error →
            error = .tooManySlots e.lastPropertyId.id ∨ (∃ slot, error = .slotOverflow slot) ∨
              ∃ length, error = .tooLarge .table length) := by
  obtain ⟨b, hb⟩ := exists_ofEntity hg he
  obtain ⟨rfl, -, -⟩ := Binding.of_ofEntity hb
  refine ⟨b, hb, ?_⟩
  intro r id hroom
  refine ⟨Binding.encode_tooManySlots hroom, ?_⟩
  intro ha
  obtain ⟨b', hb', hwf⟩ := exists_binding hg he ha
  cases hb.symm.trans hb'
  constructor
  · intro hm
    refine ⟨fun i v hv ho hfirst => Binding.encode_slotOverflow hwf hroom hm hv ho hfirst, ?_⟩
    intro hall
    exact (Binding.encode_of_not_overflows hwf hroom hm hall).symm
  · intro error herror
    exact Binding.error_of_encode hwf hroom herror

/-- Probes, which hold two numbers as wide as the machine. -/
def probe : Entity := Samples.entity 1 1000 "Probe" ⟨3, 1003⟩
  [Samples.property 1 1001 "id" .u64, Samples.property 2 1002 "drift" .isize,
    Samples.property 3 1003 "index" .usize]

def probeSchema : Schema := ⟨#[probe], ⟨1, 1000⟩⟩

/-- Neither number fits. -/
def adrift : List Value := [.u64 0, .isize (-2147483649), .usize 4294967296]

theorem encode_outcomes_adrift :
    ∃ b, Binding.ofEntity probe = .ok b ∧ ∃ r : Record b.types, r.values = adrift ∧
      b.encode r 1 = .error (.slotOverflow 1) := by
  have hbuilt : probeSchema.Built :=
    (Built.nothing ⟨1, 1000⟩).push (Samples.took_entity 1 1000 "Probe" ⟨3, 1003⟩ _)
  have hg : ∃ source, probeSchema.generate {} = .ok source := by
    apply exists_ok
    decide +kernel
  obtain ⟨source, hg⟩ := hg
  have hmem : probe ∈ probeSchema.entities := by simp [probeSchema]
  obtain ⟨b, hb, h⟩ := encode_outcomes hg hmem
  have hroom : (Binding.ofEntity probe).toOption.all (fun b =>
      b.types = adrift.map Value.type ∧ ∀ ht : adrift.map Value.type = b.types,
        headerSize + (Value.outside adrift).size < UInt32.size ∧
          b.bufferSize ⟨adrift, ht⟩ 1 < UInt32.size) = true := by
    decide +kernel
  rw [hb] at hroom
  obtain ⟨ht, hroom⟩ := of_decide_eq_true hroom
  obtain ⟨hchildren, hbuffer⟩ := hroom ht.symm
  obtain ⟨hfew, -⟩ :=
    (h ⟨adrift, ht.symm⟩ 1 ⟨hchildren, fun _ => hbuffer⟩).2 (hbuilt.assembled probe hmem)
  refine ⟨b, hb, ⟨adrift, ht.symm⟩, rfl, (hfew (by decide +kernel)).1 1 _ rfl (.inl (by decide)) ?_⟩
  intro j hj w hw
  obtain rfl : j = 0 := by omega
  cases hw
  exact id

/-- The amount of an invoice with an id is refused: its slot is taken. -/
theorem encode_slot_twice_invoice :
    (∃ source, invoiceSchema.generate {} = .ok source) ∧ invoice ∈ invoiceSchema.entities ∧
      ∃ b, Binding.ofEntity invoice = .ok b ∧ ∃ typed : numbered.map Value.type = b.types,
        b.LeavesRoom ⟨numbered, typed⟩ 1 ∧ invoice.lastPropertyId.id.toNat ≤ maxSlots ∧
          (∀ v ∈ numbered, ¬ v.Overflows) ∧ b.tableSize ⟨numbered, typed⟩ 1 < UInt16.size ∧
          b.encode ⟨numbered, typed⟩ 1 = .error (.duplicateSlot 0) := by
  have hclosed : ∃ b, Binding.ofEntity invoice = .ok b ∧
      ∃ typed : numbered.map Value.type = b.types,
        headerSize + (Value.outside numbered).size < UInt32.size ∧
          b.bufferSize ⟨numbered, typed⟩ 1 < UInt32.size ∧
          b.tableSize ⟨numbered, typed⟩ 1 < UInt16.size ∧
          b.encode ⟨numbered, typed⟩ 1 = .error (.duplicateSlot 0) :=
    exists_ok_and (by decide +kernel)
  obtain ⟨b, hb, typed, hchildren, hbuffer, htable, hencode⟩ := hclosed
  refine ⟨exists_generate_invoiceSchema, by simp [invoiceSchema], b, hb, typed,
    ⟨hchildren, fun _ => hbuffer⟩, by decide, ?_, htable, hencode⟩
  simp [numbered, Value.Overflows]

end Schema

end RecordStore

import RecordStore.Proofs.Buffer.Extension
import RecordStore.Proofs.Buffer.Session
import RecordStore.Proofs.Schema.RoundTrip

/-! Buffers of records that are cut off or have more bytes behind them: the first are noticed before
any field is read, whatever slots the fields have, and the second read like the buffers themselves
unless these were too short. -/
namespace RecordStore

open Buffer

namespace Buffer.Builder

/-- A table is open, and each of its fields has a slot of its own, since one that is taken is
refused. -/
structure Writing (b : Builder) : Prop where
  header_le : headerSize ≤ b.bytes.size
  exists_table : ∃ t, b.table = some t ∧ t.WellFormed

namespace Writing

variable {b b' : Builder} {slot : UInt16}

theorem push {α : Type} [Scalar α] {value default : α} (h : b.Writing)
    (hp : b.push slot value default = .ok b') : b'.Writing := by
  obtain ⟨t, ht, hwf⟩ := h.exists_table
  obtain ⟨t', ht', hc, rfl⟩ := of_push hp
  cases ht.symm.trans ht'
  refine ⟨h.header_le, _, rfl, ?_⟩
  cases scalarCell value default with
  | none => exact hwf
  | some cell => exact hwf.push hc cell

theorem pushOffset {offset : Offset} (h : b.Writing) (hp : b.pushOffset slot offset = .ok b') :
    b'.Writing := by
  obtain ⟨t, ht, hwf⟩ := h.exists_table
  obtain ⟨t', ht', hc, rfl⟩ := of_pushOffset hp
  cases ht.symm.trans ht'
  exact ⟨h.header_le, _, rfl, hwf.push hc _⟩

theorem writeSlot {v : Value} {child : Option Offset} (h : b.Writing)
    (hw : v.writeSlot slot child b = .ok b') : b'.Writing := by
  cases v with
  | isize _ | usize _ =>
    rw [Value.writeSlot] at hw
    split at hw
    · exact h.push hw
    · cases hw
  | text _ | bytes _ =>
    cases child with
    | none =>
      cases hw
      exact h
    | some offset => exact h.pushOffset hw
  | _ => exact h.push hw

theorem writeField {id : UInt64} {entry : Binding.Entry} (h : b.Writing)
    (hw : Binding.writeField id b entry = .ok b') : b'.Writing := by
  rw [Binding.writeField] at hw
  split at hw
  · exact h.push hw
  · exact h.writeSlot hw

theorem writeFields {id : UInt64} {entries : List Binding.Entry} (h : b.Writing)
    (hw : entries.foldlM (Binding.writeField id) b = .ok b') : b'.Writing := by
  induction entries generalizing b with
  | nil =>
    cases hw
    exact h
  | cons entry entries ih =>
    obtain ⟨next, hn, hw⟩ := bind_eq_ok.mp hw
    exact ih (h.writeField hn) hw

end Writing

end Buffer.Builder

theorem FieldType.continues_read (t : Table) (more : ByteArray) (offset : UInt16)
    (type : FieldType) :
    Continues t.bytes.size id (type.read t offset) (type.read (t.extend more) offset) := by
  cases type with
  | char => exact (t.continues_char more offset _).bind fun _ => .ok _
  | text => exact (t.continues_string more offset).bind fun _ => .ok _
  | bytes => exact (t.continues_byteVector more offset).bind fun _ => .ok _
  | _ => exact (t.continues_get more offset _).bind fun _ => .ok _

theorem Record.continues_read (t : Table) (more : ByteArray) (fields : List BoundField) :
    Continues t.bytes.size id (Record.read t fields) (Record.read (t.extend more) fields) := by
  induction fields with
  | nil => exact .ok _
  | cons f fields ih =>
    have hfirst := f.type.continues_read t more f.property.directoryOffset
    rw [Record.read, Record.read]
    split
    · next e he =>
      rcases hfirst with ⟨position, needed, hshort⟩ | hsame
      · cases he.symm.trans hshort
        exact .inl ⟨position, needed, rfl⟩
      · rw [he] at hsame
        split
        · next e' he' =>
          cases he'.symm.trans hsame
          exact .error e
        · next v hv => cases hv.symm.trans hsame
    · next v hv =>
      rw [hv] at hfirst
      split
      · next e he => cases he.symm.trans hfirst.of_ok
      · next v' hv' =>
        cases hv'.symm.trans hfirst.of_ok
        rcases ih with ⟨position, needed, hshort⟩ | hsame
        · exact .inl ⟨position, needed, by rw [hshort]; rfl⟩
        · rw [hsame]
          cases Record.read t fields <;> exact .inr rfl

namespace Binding

variable {b : Binding} {r : Record b.types} {id : UInt64}

/-- A buffer decodes to the same with more bytes behind it, unless it is too short. -/
theorem decode_append (b : Binding) (bytes more : ByteArray) :
    RunsShort bytes.size (b.decode bytes) ∨ b.decode (bytes ++ more) = b.decode bytes := by
  rcases Table.continues_root bytes more with ⟨position, needed, hshort⟩ | hroot
  · rw [decode, hshort]
    exact .inl ⟨position, needed, rfl⟩
  · rw [decode, decode, hroot]
    cases hfound : Table.root bytes with
    | error e => exact .inr rfl
    | ok t =>
      have hread := Record.continues_read t more b.fields
      rw [(Table.of_root bytes hfound).1] at hread
      exact hread.imp_right fun he => he.trans (congrFun Except.map_id _)

/-- Flattening a record fills one table, whatever slots the fields have. -/
theorem writing_of_flatten {builder : Builder} (h : b.flatten r id .new = .ok builder) :
    builder.Writing := by
  obtain ⟨⟨children, written⟩, hw, h⟩ := bind_eq_ok.mp h
  obtain ⟨rfl, -, -⟩ := of_writeChildren rfl (by decide) hw
  obtain ⟨started, hs, hfields⟩ := bind_eq_ok.mp h
  obtain ⟨-, hm, rfl⟩ := Builder.of_startTable hs
  refine Builder.Writing.writeFields ⟨by simp [Builder.new], _, rfl, ?_⟩ hfields
  apply OpenTable.wellFormed_empty
  rw [UInt32.toNat_toUInt16]
  exact Nat.le_trans (Nat.mod_le _ _) hm

/-- A record whose buffer lacks a byte has no table there. -/
theorem root_runsShort_of_encode {front back : ByteArray}
    (he : b.encode r id = .ok (front ++ back)) (hback : back ≠ .empty) :
    RunsShort front.size (Table.root front) := by
  obtain ⟨builder, hf, hfinish⟩ := bind_eq_ok.mp he
  have hwriting := writing_of_flatten hf
  obtain ⟨t, ht, hwf⟩ := hwriting.exists_table
  obtain ⟨position, hstand, hroot, -, hend, -⟩ :=
    Builder.root_of_finish ht hwf hwriting.header_le hfinish
  exact hstand.root_runsShort hroot hend hback

end Binding

namespace Schema

/-- A buffer of a record that was cut off anywhere is too short for a table to be found in it, and
bytes behind a buffer change nothing, unless that was too short to be decoded. Every buffer of a
record is decoded if the slots of the properties are their places. -/
theorem truncation_detected {s : Schema} {config : Config} {source : GeneratedSource}
    (hg : s.generate config = .ok source) {e : Entity} (he : e ∈ s.entities) :
    ∃ b, Binding.ofEntity e = .ok b ∧
      ∀ (r : Record b.types) (id : UInt64) (bytes : ByteArray), b.encode r id = .ok bytes →
        (∀ front back : ByteArray, bytes = front ++ back → back ≠ .empty →
          ∃ position needed,
            Table.root front = .error (.outOfBounds position needed front.size) ∧
              b.decode front = .error (.outOfBounds position needed front.size)) ∧
        (∀ more : ByteArray, RunsShort bytes.size (b.decode bytes) ∨
          b.decode (bytes ++ more) = b.decode bytes) ∧
        (e.Assembled → ∃ r', b.decode bytes = .ok r') := by
  obtain ⟨b, hb⟩ := exists_ofEntity hg he
  refine ⟨b, hb, ?_⟩
  intro r id bytes hencode
  refine ⟨?_, b.decode_append bytes, ?_⟩
  · rintro front back rfl hback
    obtain ⟨position, needed, hroot⟩ := Binding.root_runsShort_of_encode hencode hback
    refine ⟨position, needed, hroot, ?_⟩
    rw [Binding.decode, hroot]
    rfl
  · intro ha
    obtain ⟨b', hb', hwf⟩ := exists_binding hg he ha
    cases hb.symm.trans hb'
    exact ⟨_, Binding.decode_of_encode hwf hencode⟩

theorem exists_encode_faint {b : Binding} (hb : Binding.ofEntity note = .ok b) :
    ∃ r : Record b.types, r.values = faint ∧ ∃ bytes, b.encode r 7 = .ok bytes := by
  have hencode : (Binding.ofEntity note).toOption.all (fun b =>
      b.types = faint.map Value.type ∧ ∀ ht : faint.map Value.type = b.types,
        (b.encode ⟨faint, ht⟩ 7).toOption.isSome) = true := by
    decide +kernel
  rw [hb] at hencode
  obtain ⟨ht, hsome⟩ := of_decide_eq_true hencode
  exact ⟨⟨faint, ht.symm⟩, rfl, exists_ok (hsome ht.symm)⟩

/-- The faint note without its last byte, and with one more. -/
theorem truncation_detected_faint :
    ∃ b, Binding.ofEntity note = .ok b ∧ ∃ r : Record b.types, r.values = faint ∧
      ∃ front last : ByteArray, last.size = 1 ∧ b.encode r 7 = .ok (front ++ last) ∧
        (∃ position needed, b.decode front = .error (.outOfBounds position needed front.size)) ∧
        ∃ r', b.decode (front ++ last) = .ok r' ∧
          b.decode (front ++ last ++ ⟨#[1]⟩) = .ok r' := by
  obtain ⟨source, hg⟩ := exists_generate_noteSchema
  have hmem : note ∈ noteSchema.entities := by simp [noteSchema]
  obtain ⟨b, hb, h⟩ := truncation_detected hg hmem
  obtain ⟨r, hr, bytes, he⟩ := exists_encode_faint hb
  obtain ⟨hcut, hmore, hdecode⟩ := h r 7 bytes he
  obtain ⟨r', hd⟩ := hdecode (built_noteSchema.assembled note hmem)
  have hsame : b.decode (bytes ++ ⟨#[1]⟩) = .ok r' := by
    rcases hmore ⟨#[1]⟩ with ⟨position, needed, hshort⟩ | he
    · cases hd.symm.trans hshort
    · exact he.trans hd
  have hsize : bytes.size ≠ 0 := by
    intro hn
    rw [ByteArray.size_eq_zero_iff.mp hn] at hd
    cases hd
  have hsplit : bytes =
      bytes.extract 0 (bytes.size - 1) ++ bytes.extract (bytes.size - 1) bytes.size := by
    rw [← ByteArray.extract_eq_extract_append_extract _ (Nat.zero_le _) (Nat.sub_le _ _),
      ByteArray.extract_zero_size]
  have hlast : (bytes.extract (bytes.size - 1) bytes.size).size = 1 := by
    rw [ByteArray.size_extract]
    omega
  obtain ⟨position, needed, -, hshort⟩ := hcut _ _ hsplit (by
    rw [ne_eq, ← ByteArray.size_eq_zero_iff]
    omega)
  exact ⟨b, hb, r, hr, _, _, hlast, hsplit ▸ he, ⟨position, needed, hshort⟩, r', hsplit ▸ hd,
    hsplit ▸ hsame⟩

/-- The buffer of an invoice without an id does not decode, and with four bytes behind it does. -/
theorem trailing_bytes_decode_invoice :
    (∃ source, invoiceSchema.generate {} = .ok source) ∧ invoice ∈ invoiceSchema.entities ∧
      ∃ b, Binding.ofEntity invoice = .ok b ∧
        (∃ typed : unnumbered.map Value.type = b.types,
          b.encode ⟨unnumbered, typed⟩ 0 = .ok unnumberedBytes) ∧
        b.decode unnumberedBytes = .error (.outOfBounds 16 8 20) ∧
        ∃ typed : [Value.u64 77, .u32 77].map Value.type = b.types,
          b.decode (unnumberedBytes ++ ⟨#[0, 0, 0, 0]⟩) = .ok ⟨[.u64 77, .u32 77], typed⟩ := by
  refine ⟨exists_generate_invoiceSchema, by simp [invoiceSchema], exists_ok_and ?_⟩
  decide +kernel

end Schema

end RecordStore

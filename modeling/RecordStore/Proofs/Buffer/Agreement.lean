import RecordStore.Proofs.Buffer.Session
import RecordStore.Proofs.Record.Reading

/-! Whatever calls were made on a builder, the buffer that it finishes is read back as the calls
wrote it. -/
namespace RecordStore.Buffer

universe u v

theorem rel_imp {α : Type u} {β : Type v} {r r' : α → β → Prop} {a : Option α} {b : Option β}
    (h : Option.Rel r a b) (hi : ∀ a b, r a b → r' a b) : Option.Rel r' a b := by
  cases h with
  | none => exact .none
  | some h => exact .some (hi _ _ h)

/-- The table under a root is the one that a sheet describes. -/
def Sheet.StandsAt (sheet : Sheet) (whole : ByteArray) (root : Offset) : Prop :=
  ∃ t, Standing t root.position.toNat whole ∧ sheet.Describes t root.position.toNat whole

/-- The builder holds what the account of its calls says. -/
structure Session.Faithful (s : Session) : Prop where
  header_le : headerSize ≤ s.builder.bytes.size
  children : ∀ child ∈ s.children,
    Lodged s.builder.bytes.size s.builder.bytes child.2 child.1
  current : Option.Rel
    (fun t sheet => t.WellFormed ∧ sheet.Describes t s.builder.bytes.size s.builder.bytes)
    s.builder.table s.current
  completed : Option.Rel (fun root sheet => sheet.StandsAt s.builder.bytes root)
    s.builder.lastTable s.completed

namespace Sheet.StandsAt

variable {sheet : Sheet} {whole : ByteArray} {root : Offset}

theorem append_right (h : sheet.StandsAt whole root) (more : ByteArray) :
    sheet.StandsAt (whole ++ more) root := by
  obtain ⟨t, hstand, hd⟩ := h
  exact ⟨t, hstand.append_right more,
    hd.move (Nat.le_refl _) fun part p _ hl => hl.append_right more⟩

theorem of_write {t : OpenTable} {b b' : Builder} (h : sheet.Describes t b.bytes.size b.bytes)
    (ht : t.WellFormed) (hb : headerSize ≤ b.bytes.size) (hw : b.write t = .ok (root, b')) :
    sheet.StandsAt b'.bytes root := by
  refine ⟨t, Standing.of_write ht hb hw, ?_⟩
  obtain ⟨-, -, hp, rfl, rfl⟩ := (Builder.write_eq_ok ht).mp hw
  refine h.move ?_ fun part p _ hl => (hl.append_right _).append_right _
  rw [UInt32.toNat_ofNat_of_lt' hp]
  omega

end Sheet.StandsAt

namespace Session

theorem faithful_new : new.Faithful := by
  refine ⟨by simp [new, Builder.new], ?_, .none, .none⟩
  intro child hc
  cases hc

namespace Faithful

variable {s : Session}

/-- An open table has a sheet. -/
theorem exists_current (h : s.Faithful) {t : OpenTable} (ht : s.builder.table = some t) :
    ∃ sheet, s.current = some sheet ∧ t.WellFormed ∧
      sheet.Describes t s.builder.bytes.size s.builder.bytes := by
  have hc := h.current
  rw [ht] at hc
  cases hs : s.current with
  | none =>
    rw [hs] at hc
    cases hc
  | some sheet =>
    rw [hs] at hc
    cases hc with
    | some hd => exact ⟨sheet, rfl, hd⟩

theorem current_eq_none (h : s.Faithful) (ht : s.builder.table = none) : s.current = none := by
  have hc := h.current
  rw [ht] at hc
  cases hs : s.current with
  | none => rfl
  | some sheet =>
    rw [hs] at hc
    cases hc

/-- A table that was completed has a sheet. -/
theorem exists_completed (h : s.Faithful) {root : Offset} (hl : s.builder.lastTable = some root) :
    ∃ sheet, s.completed = some sheet ∧ sheet.StandsAt s.builder.bytes root := by
  have hc := h.completed
  rw [hl] at hc
  cases hs : s.completed with
  | none =>
    rw [hs] at hc
    cases hc
  | some sheet =>
    rw [hs] at hc
    cases hc with
    | some hstand => exact ⟨sheet, rfl, hstand⟩

/-- Bytes that are written behind the others leave everything where it was. -/
theorem append (h : s.Faithful) (more : ByteArray) :
    Faithful { s with builder := { s.builder with bytes := s.builder.bytes ++ more } } := by
  have hle : s.builder.bytes.size ≤ (s.builder.bytes ++ more).size := by simp
  have hlies : ∀ part p, headerSize ≤ p → Lies part p s.builder.bytes →
      Lies part p (s.builder.bytes ++ more) := fun part p _ hl => hl.append_right more
  refine ⟨Nat.le_trans h.header_le hle, fun child hc => (h.children child hc).move hle hlies,
    ?_, rel_imp h.completed fun root sheet hs => hs.append_right more⟩
  exact rel_imp h.current fun t sheet hd => ⟨hd.1, hd.2.move hle hlies⟩

theorem closed (h : s.Faithful) :
    Faithful { s with builder := { s.builder with table := none }, current := none } :=
  ⟨h.header_le, h.children, .none, h.completed⟩

theorem child (h : s.Faithful) (region : Region) (data : ByteArray) :
    (s.withChild data (s.builder.child region data)).Faithful := by
  cases hc : s.builder.child region data with
  | error e => exact h
  | ok made =>
    obtain ⟨offset, b⟩ := made
    obtain ⟨ht, rfl⟩ := Builder.of_child hc
    have hl := Builder.lodged_of_child ht h.header_le hc
    have ha := h.append (frame data)
    refine ⟨ha.header_le, ?_, ha.current, ha.completed⟩
    intro child hm
    rcases List.mem_append.mp hm with hm | hm
    · exact ha.children child hm
    · rw [List.mem_singleton.mp hm]
      exact hl

theorem start (h : s.Faithful) (slotCount : UInt32) : (s.step (.start slotCount)).Faithful := by
  rw [step]
  cases hs : s.builder.startTable slotCount with
  | error e => exact h
  | ok b =>
    obtain ⟨-, hle, rfl⟩ := Builder.of_startTable hs
    have hcount : slotCount.toUInt16.toNat = slotCount.toNat := by
      rw [UInt32.toNat_toUInt16]
      exact Nat.mod_eq_of_lt (Nat.lt_of_le_of_lt hle (by decide))
    refine ⟨h.header_le, h.children, .some ⟨?_, hcount, rfl, ?_⟩, h.completed⟩
    · exact OpenTable.wellFormed_empty (by rw [hcount]; exact hle)
    · intro entry he
      cases he

/-- A push puts the content that it fills the slot with on the sheet of the open table. -/
theorem push (h : s.Faithful) {slot : UInt16} {content : Option Content}
    {outcome : Except BuildError Builder}
    (ho : ∀ b, outcome = .ok b → ∃ t, s.builder.table = some t ∧ t.check slot = .ok () ∧
      b = { s.builder with table := some (t.put slot (content.map Content.cell)) })
    (hc : ∀ c ∈ content, c.Backed s.builder.bytes.size s.builder.bytes) :
    (s.withPush slot content outcome).Faithful := by
  cases outcome with
  | error e => exact h
  | ok b =>
    obtain ⟨t, ht, hcheck, rfl⟩ := ho b rfl
    refine ⟨h.header_le, h.children, ?_, h.completed⟩
    obtain ⟨sheet, hs, hwf, hd⟩ := h.exists_current ht
    simp only [withPush, hs]
    cases content with
    | none => exact .some ⟨hwf, hd⟩
    | some c => exact .some ⟨hwf.push hcheck c.cell, hd.put slot (hc c rfl)⟩

theorem endTable (h : s.Faithful) : (s.step .endTable).Faithful := by
  rw [step]
  cases he : s.builder.endTable with
  | mk outcome b =>
    cases outcome with
    | error e =>
      rw [Builder.of_endTable_error he]
      exact h.closed
    | ok root =>
      obtain ⟨t, ht, hw⟩ := Builder.of_endTable_ok he
      obtain ⟨sheet, hs, hwf, hd⟩ := h.exists_current ht
      have hstand := Sheet.StandsAt.of_write hd hwf h.header_le hw
      obtain ⟨-, -, -, rfl, rfl⟩ := (Builder.write_eq_ok hwf).mp hw
      -- The directory and the table are written behind what is there.
      have ha := (h.closed.append t.directory).append
        (t.body (s.builder.bytes.size + t.directorySize))
      simp only [hs]
      exact ⟨ha.header_le, ha.children, .none, .some hstand⟩

theorem finish (h : s.Faithful) : (s.step .finish).Faithful := by
  rw [step]
  cases hf : s.builder.finish with
  | mk outcome b =>
    cases outcome with
    | ok bytes => exact faithful_new
    | error e =>
      rw [Builder.of_finish_error hf]
      exact h.closed

end Faithful

theorem map_cell_ofScalar? {α : Type} [Scalar α] (value default : α) :
    (Content.ofScalar? value default).map Content.cell = scalarCell value default := by
  rw [Content.ofScalar?, scalarCell]
  by_cases hs : Scalar.same value default <;> simp [hs, Content.cell]

theorem Faithful.step {s : Session} (h : s.Faithful) (call : BuilderCall) :
    (s.step call).Faithful := by
  cases call with
  | string text => exact h.child .string text.toUTF8
  | byteVector data => exact h.child .byteVector data
  | start slotCount => exact h.start slotCount
  | push slot value default =>
    refine h.push ?_ ?_
    · intro b hb
      rw [map_cell_ofScalar?]
      exact Builder.of_push hb
    · intro c hc
      rw [Content.ofScalar?] at hc
      by_cases hs : Scalar.same value default
      · rw [if_pos hs] at hc
        cases hc
      · rw [if_neg hs] at hc
        cases hc
        trivial
  | pushOffset slot child =>
    rw [Session.step]
    cases hc : s.children[child]? with
    | none => exact h
    | some made =>
      refine h.push (fun b hb => Builder.of_pushOffset hb) ?_
      intro c he
      cases he
      exact h.children made (List.mem_of_getElem? hc)
  | endTable => exact h.endTable
  | finish => exact h.finish
  | reset => exact faithful_new

theorem Faithful.run {s : Session} (h : s.Faithful) (calls : List BuilderCall) :
    (s.run calls).Faithful := by
  induction calls generalizing s with
  | nil => exact h
  | cons call calls ih => exact ih (h.step call)

/-- A finished builder hands out the bytes of the table that its account names as the root. -/
theorem Faithful.finished {s : Session} (h : s.Faithful) {bytes : ByteArray}
    (hf : s.builder.finish.1 = .ok bytes) :
    ∃ sheet t position, s.root? = some sheet ∧ Standing t position bytes ∧
      sheet.Describes t position bytes ∧ Table.root bytes = .ok (t.view position bytes) := by
  cases ht : s.builder.table with
  | some t =>
    obtain ⟨sheet, hs, hwf, hd⟩ := h.exists_current ht
    obtain ⟨position, hstand, hroot, hle, -, hmoved⟩ :=
      Builder.root_of_finish ht hwf h.header_le hf
    exact ⟨sheet, t, position, by simp [root?, hs], hstand, hd.move hle hmoved, hroot⟩
  | none =>
    simp only [Builder.finish, ht, Option.isSome_none, Bool.false_eq_true, if_false] at hf
    have hc := h.current
    rw [ht] at hc
    obtain ⟨root, hl⟩ : ∃ root, s.builder.lastTable = some root := by
      cases hl : s.builder.lastTable with
      | none => simp [Builder.release, hl] at hf
      | some root => exact ⟨root, rfl⟩
    obtain ⟨sheet, hs, t, hstand, hd⟩ := h.exists_completed hl
    obtain ⟨hstand', hroot, hmoved⟩ := Builder.root_of_release hstand hl hf
    have hn : s.current = none := h.current_eq_none ht
    exact ⟨sheet, t, _, by simp [root?, hn, hs], hstand', hd.move (Nat.le_refl _) hmoved, hroot⟩

end Session

/-- Readers of a table find what its sheet says, and nothing where it says nothing. -/
structure Sheet.ShownBy (sheet : Sheet) (table : Table) : Prop where
  slotCount_eq : table.slotCount = sheet.slotCount.toNat
  scalar : ∀ {α : Type} [Scalar α] {slot : UInt16} {value : α},
    (slot, .scalar value) ∈ sheet.contents →
      ∃ offset, slotOffset slot = .ok offset ∧ ∀ default, table.get offset default = .ok value
  child : ∀ {slot : UInt16} {at_ : Offset} {data : ByteArray},
    (slot, .child at_ data) ∈ sheet.contents →
      ∃ offset, slotOffset slot = .ok offset ∧ table.byteVector offset = .ok data
  blank : ∀ {slot offset : UInt16}, slotOffset slot = .ok offset →
    ((∀ content, (slot, content) ∉ sheet.contents) ∨ sheet.slotCount.toNat ≤ slot.toNat) →
      table.has offset = .ok false ∧ table.byteVector offset = .ok .empty ∧
        ∀ {α : Type} [Scalar α] (default : α), table.get offset default = .ok default

namespace Sheet.Describes

variable {sheet : Sheet} {t : OpenTable} {position : Nat} {whole : ByteArray} {slot : UInt16}

theorem holds (h : sheet.Describes t position whole) {content : Content}
    (hc : (slot, content) ∈ sheet.contents) : t.Holds slot (some content.cell) := by
  rw [OpenTable.Holds, h.fields_eq]
  exact List.mem_map_of_mem (f := fun entry => (entry.1, entry.2.cell)) hc

theorem exists_slotOffset (h : sheet.Describes t position whole) (ht : t.WellFormed)
    {content : Content} (hc : (slot, content) ∈ sheet.contents) :
    ∃ offset, slotOffset slot = .ok offset := by
  have hlt := UInt16.lt_iff_toNat_lt.mp (ht.slot_lt _ (h.holds hc))
  exact Buffer.exists_slotOffset (Nat.lt_of_lt_of_le hlt ht.slotCount_le)

/-- Readers find in a table that stands in a buffer what its sheet says. -/
theorem shown (h : sheet.Describes t position whole) (hs : Standing t position whole) :
    sheet.ShownBy (t.view position whole) := by
  refine ⟨?_, ?_, ?_, ?_⟩
  · have hsize : (t.view position whole).directorySize =
        directoryHeaderSize + 2 * t.slotCount.toNat := rfl
    rw [← h.slotCount_eq, Table.slotCount, hsize]
    omega
  · intro α _ slot value hc
    obtain ⟨offset, ho⟩ := h.exists_slotOffset hs.wellFormed hc
    exact ⟨offset, ho, hs.get_of_inline (slotOffset_eq_ok.mp ho) (h.holds hc)⟩
  · intro slot at_ data hc
    obtain ⟨offset, ho⟩ := h.exists_slotOffset hs.wellFormed hc
    exact ⟨offset, ho, hs.byteVector_eq (slotOffset_eq_ok.mp ho) (h.backed _ hc) (h.holds hc)⟩
  · intro slot offset ho hblank
    have hnone : t.Holds slot none := by
      rcases hblank with hn | hle
      · exact h.not_mem_slots hn
      · intro hm
        obtain ⟨field, hf, rfl⟩ := List.mem_map.mp hm
        have hlt := UInt16.lt_iff_toNat_lt.mp (hs.wellFormed.slot_lt field hf)
        rw [h.slotCount_eq] at hlt
        omega
    have hfield := hs.field?_of_empty (slotOffset_eq_ok.mp ho) hnone
    refine ⟨?_, ?_, ?_⟩
    · rw [Table.has, hfield]
      rfl
    · rw [Table.byteVector, hfield]
      rfl
    · intro α _ default
      rw [Table.get, hfield]
      rfl

end Sheet.Describes

/-- After any calls on a builder, the bytes that it finishes read as the table that the calls made
the root: every slot gives what the calls filled it with, and nothing if they did not. -/
theorem root_shows_calls {calls : List BuilderCall} {bytes : ByteArray}
    (h : (Session.new.run calls).builder.finish.1 = .ok bytes) :
    ∃ sheet table, (Session.new.run calls).root? = some sheet ∧ Table.root bytes = .ok table ∧
      sheet.ShownBy table := by
  obtain ⟨sheet, t, position, hs, hstand, hd, hroot⟩ := (Session.faithful_new.run calls).finished h
  exact ⟨sheet, _, hs, hroot, hd.shown hstand⟩

/-- A first table with a child, a table that is given up for being written to beyond its slots, and
the root with both children. -/
def sampleCalls : List BuilderCall :=
  [.string "ab", .start 2, .push 1 (7 : UInt8) 0, .pushOffset 0 0, .endTable,
    .byteVector ⟨#[1, 2, 3]⟩, .start 4, .push 3 (-1 : Int16) 0, .push 9 true false,
    .pushOffset 0 1, .push 2 false false]

theorem root_shows_calls_sample :
    ∃ bytes sheet table, (Session.new.run sampleCalls).builder.finish.1 = .ok bytes ∧
      (Session.new.run sampleCalls).root? = some sheet ∧ Table.root bytes = .ok table ∧
      sheet.ShownBy table := by
  obtain ⟨bytes, h⟩ := exists_ok (x := (Session.new.run sampleCalls).builder.finish.1)
    (by decide +kernel)
  obtain ⟨sheet, table, hs, hr, hd⟩ := root_shows_calls h
  exact ⟨bytes, sheet, table, h, hs, hr, hd⟩

end RecordStore.Buffer

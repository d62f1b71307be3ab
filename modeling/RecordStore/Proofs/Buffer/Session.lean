import RecordStore.Proofs.Record.Children

/-! Any calls on one builder, with an account of what they wrote since the builder was new: the
children, the table that is open and the table completed last. -/
namespace RecordStore.Buffer

/-- A call on a builder. A child is named by its place among those written since the builder was
new. -/
inductive BuilderCall
  | string (text : String)
  | byteVector (data : ByteArray)
  | start (slotCount : UInt32)
  | push {α : Type} [Scalar α] (slot : UInt16) (value default : α)
  | pushOffset (slot : UInt16) (child : Nat)
  | endTable
  | finish
  | reset

/-- What a slot was filled with. -/
inductive Content
  | scalar {α : Type} [Scalar α] (value : α)
  | child (offset : Offset) (data : ByteArray)

def Content.cell : Content → Cell
  | scalar value => .inline (Scalar.bytes value)
  | child offset _ => .child offset

/-- What a value fills its slot with: nothing if it is the one that readers fall back to. -/
def Content.ofScalar? {α : Type} [Scalar α] (value default : α) : Option Content :=
  if Scalar.same value default then none else some (.scalar value)

/-- A table as its calls describe it: the number of slots, and what filled some of them. -/
structure Sheet where
  slotCount : UInt32
  contents : List (UInt16 × Content)

def Sheet.put (s : Sheet) (slot : UInt16) (content : Content) : Sheet :=
  { s with contents := s.contents ++ [(slot, content)] }

/-- A builder and the account of its calls. -/
structure Session where
  builder : Builder
  /-- The children with the offsets that were handed out for them. -/
  children : List (Offset × ByteArray)
  /-- The table that is open. -/
  current : Option Sheet
  /-- The table completed last. -/
  completed : Option Sheet

namespace Session

def new : Session := ⟨.new, [], none, none⟩

/-- The account of a child; an attempt that failed leaves none. -/
def withChild (s : Session) (data : ByteArray) :
    Except BuildError (Offset × Builder) → Session
  | .ok (offset, b) => { s with builder := b, children := s.children ++ [(offset, data)] }
  | .error _ => s

/-- The account of a push, with what it filled the slot with, if it did. -/
def withPush (s : Session) (slot : UInt16) (content : Option Content) :
    Except BuildError Builder → Session
  | .ok b =>
    { s with
      builder := b
      current := s.current.map fun sheet => content.elim sheet (sheet.put slot) }
  | .error _ => s

/-- Makes a call. One that fails is ignored, but that a table is given up if it cannot be closed;
what was written is forgotten when the builder starts anew. -/
def step (s : Session) : BuilderCall → Session
  | .string text => s.withChild text.toUTF8 (s.builder.string text)
  | .byteVector data => s.withChild data (s.builder.byteVector data)
  | .start slotCount =>
    match s.builder.startTable slotCount with
    | .ok b => { s with builder := b, current := some ⟨slotCount, []⟩ }
    | .error _ => s
  | @BuilderCall.push _ _ slot value default =>
    s.withPush slot (Content.ofScalar? value default) (s.builder.push slot value default)
  | .pushOffset slot child =>
    match s.children[child]? with
    | some (offset, data) =>
      s.withPush slot (some (.child offset data)) (s.builder.pushOffset slot offset)
    | none => s
  | .endTable =>
    match s.builder.endTable with
    | (.ok _, b) => { s with builder := b, current := none, completed := s.current }
    | (.error _, b) => { s with builder := b, current := none }
  | .finish =>
    match s.builder.finish with
    | (.ok _, _) => new
    | (.error _, b) => { s with builder := b, current := none }
  | .reset => new

def run (s : Session) (calls : List BuilderCall) : Session := calls.foldl step s

/-- The table that finishing makes the root: the open one, which finishing closes, or else the one
completed last. -/
def root? (s : Session) : Option Sheet := s.current <|> s.completed

end Session

/-- A child that fills a slot stands in front of a position. -/
def Content.Backed (position : Nat) (whole : ByteArray) : Content → Prop
  | scalar _ => True
  | child offset data => Lodged position whole data offset

/-- A table holds what its sheet says, and the children it refers to stand in front of it. -/
structure Sheet.Describes (sheet : Sheet) (t : OpenTable) (position : Nat) (whole : ByteArray) :
    Prop where
  slotCount_eq : t.slotCount.toNat = sheet.slotCount.toNat
  fields_eq : t.fields.toList = sheet.contents.map fun entry => (entry.1, entry.2.cell)
  backed : ∀ entry ∈ sheet.contents, entry.2.Backed position whole

namespace Content.Backed

variable {content : Content} {position position' : Nat} {whole whole' : ByteArray}

theorem move (h : content.Backed position whole) (hp : position ≤ position')
    (hl : ∀ part p, headerSize ≤ p → Lies part p whole → Lies part p whole') :
    content.Backed position' whole' := by
  cases content with
  | scalar value => trivial
  | child offset data => exact Lodged.move h hp hl

end Content.Backed

namespace Sheet.Describes

variable {sheet : Sheet} {t : OpenTable} {position position' : Nat} {whole whole' : ByteArray}

theorem move (h : sheet.Describes t position whole) (hp : position ≤ position')
    (hl : ∀ part p, headerSize ≤ p → Lies part p whole → Lies part p whole') :
    sheet.Describes t position' whole' :=
  { h with backed := fun entry he => (h.backed entry he).move hp hl }

theorem put (h : sheet.Describes t position whole) (slot : UInt16) {content : Content}
    (hc : content.Backed position whole) :
    (sheet.put slot content).Describes (t.push slot content.cell) position whole := by
  refine ⟨h.slotCount_eq, by simp [OpenTable.push, Sheet.put, h.fields_eq], ?_⟩
  intro entry he
  rcases List.mem_append.mp he with he | he
  · exact h.backed entry he
  · rw [List.mem_singleton.mp he]
    exact hc

/-- A slot without content has no field. -/
theorem not_mem_slots (h : sheet.Describes t position whole) {slot : UInt16}
    (hs : ∀ content, (slot, content) ∉ sheet.contents) : slot ∉ t.fields.toList.map (·.1) := by
  rw [h.fields_eq, List.map_map]
  intro hm
  obtain ⟨⟨_, content⟩, he, rfl⟩ := List.mem_map.mp hm
  exact hs content he

end Sheet.Describes

namespace OpenTable

variable {t : OpenTable} {slot : UInt16}

theorem of_check (h : t.check slot = .ok ()) :
    slot < t.slotCount ∧ slot ∉ t.fields.toList.map (·.1) := by
  obtain ⟨hs, h⟩ := ite_error_eq_ok.mp h
  obtain ⟨hh, -⟩ := ite_error_eq_ok.mp h
  refine ⟨UInt16.not_le.mp hs, ?_⟩
  intro hm
  obtain ⟨field, hf, rfl⟩ := List.mem_map.mp hm
  apply hh
  rw [has, Array.any_eq_true']
  exact ⟨field, Array.mem_toList_iff.mp hf, by simp⟩

theorem wellFormed_empty {slotCount : UInt16} (h : slotCount.toNat ≤ maxSlots) :
    WellFormed ⟨slotCount, #[]⟩ := ⟨by simp, by simp, h⟩

theorem WellFormed.push (h : t.WellFormed) (hc : t.check slot = .ok ()) (cell : Cell) :
    (t.push slot cell).WellFormed := by
  obtain ⟨hs, hn⟩ := of_check hc
  have hf : (t.push slot cell).fields.toList = t.fields.toList ++ [(slot, cell)] := by
    simp [OpenTable.push]
  refine ⟨?_, ?_, h.slotCount_le⟩
  · rw [hf, List.map_append, List.nodup_append]
    refine ⟨h.nodup, by simp, ?_⟩
    rintro a ha _ hb rfl
    rw [List.map_singleton, List.mem_singleton] at hb
    rw [hb] at ha
    exact hn ha
  · intro field hm
    rw [hf, List.mem_append, List.mem_singleton] at hm
    rcases hm with hm | rfl
    · exact h.slot_lt field hm
    · exact hs

end OpenTable

namespace Builder

variable {b b' : Builder} {slot : UInt16}

theorem of_tableFor {t : OpenTable} (h : b.tableFor slot = .ok t) :
    b.table = some t ∧ t.check slot = .ok () := by
  rw [tableFor] at h
  cases ht : b.table with
  | none =>
    rw [ht] at h
    cases h
  | some t' =>
    rw [ht] at h
    obtain ⟨⟨⟩, hc, he⟩ := bind_eq_ok.mp h
    cases he
    exact ⟨rfl, hc⟩

theorem of_child {region : Region} {data : ByteArray} {offset : Offset}
    (h : b.child region data = .ok (offset, b')) :
    b.table = none ∧ b' = { b with bytes := b.bytes ++ frame data } := by
  have ht : b.table = none := by
    cases ht : b.table with
    | none => rfl
    | some t => simp [child, ht] at h
  exact ⟨ht, ((child_eq_ok ht).mp h).2.2.2⟩

theorem of_startTable {slotCount : UInt32} (h : b.startTable slotCount = .ok b') :
    b.table = none ∧ slotCount.toNat ≤ maxSlots ∧
      b' = { b with table := some ⟨slotCount.toUInt16, #[]⟩ } := by
  obtain ⟨ht, h⟩ := ite_error_eq_ok.mp h
  obtain ⟨hm, he⟩ := ite_error_eq_ok.mp h
  cases he
  exact ⟨by simpa using ht, Nat.le_of_not_lt hm, rfl⟩

theorem of_push {α : Type} [Scalar α] {value default : α}
    (h : b.push slot value default = .ok b') :
    ∃ t, b.table = some t ∧ t.check slot = .ok () ∧
      b' = { b with table := some (t.put slot (scalarCell value default)) } := by
  obtain ⟨t, ht, -⟩ := bind_eq_ok.mp h
  obtain ⟨ht, hc⟩ := of_tableFor ht
  rw [push_eq ht hc] at h
  cases h
  exact ⟨t, ht, hc, rfl⟩

theorem of_pushOffset {offset : Offset} (h : b.pushOffset slot offset = .ok b') :
    ∃ t, b.table = some t ∧ t.check slot = .ok () ∧
      b' = { b with table := some (t.push slot (.child offset)) } := by
  have ho : b.couldHold offset = true := by
    cases ho : b.couldHold offset with
    | true => rfl
    | false => simp [pushOffset, ho] at h
  obtain ⟨t, ht⟩ : ∃ t, b.tableFor slot = .ok t := by
    simp only [pushOffset, ho, Bool.not_true, Bool.false_eq_true, if_false] at h
    obtain ⟨t, ht, -⟩ := bind_eq_ok.mp h
    exact ⟨t, ht⟩
  obtain ⟨ht, hc⟩ := of_tableFor ht
  rw [pushOffset_eq ht hc ho] at h
  cases h
  exact ⟨t, ht, hc, rfl⟩

theorem of_endTable_error {e : BuildError} (h : b.endTable = (.error e, b')) :
    b' = { b with table := none } := by
  cases ht : b.table with
  | none =>
    simp only [endTable, ht] at h
    cases h
    rw [← ht]
  | some t =>
    simp only [endTable, ht] at h
    cases hw : b.write t with
    | error e' =>
      simp only [hw] at h
      cases h
      rfl
    | ok written =>
      simp only [hw] at h
      cases h

theorem of_endTable_ok {offset : Offset} (h : b.endTable = (.ok offset, b')) :
    ∃ t, b.table = some t ∧ b.write t = .ok (offset, b') := by
  cases ht : b.table with
  | none =>
    simp only [endTable, ht] at h
    cases h
  | some t =>
    simp only [endTable, ht] at h
    cases hw : b.write t with
    | error e' =>
      simp only [hw] at h
      cases h
    | ok written =>
      simp only [hw] at h
      cases h
      exact ⟨t, rfl, hw⟩

theorem of_release_error {e : BuildError} (h : b.release = (.error e, b')) :
    b.lastTable = none ∧ b' = b := by
  cases hl : b.lastTable with
  | none =>
    simp only [release, hl] at h
    cases h
    exact ⟨rfl, rfl⟩
  | some root =>
    simp only [release, hl] at h
    cases h

theorem of_release_ok {bytes : ByteArray} (h : b.release = (.ok bytes, b')) : b' = new := by
  cases hl : b.lastTable with
  | none =>
    simp only [release, hl] at h
    cases h
  | some root =>
    simp only [release, hl] at h
    cases h
    rfl

/-- A builder that handed out a buffer starts anew. -/
theorem of_finish_ok {bytes : ByteArray} (h : b.finish = (.ok bytes, b')) : b' = new := by
  rw [finish] at h
  split at h
  · split at h
    · exact of_release_ok h
    · cases h
  · exact of_release_ok h

theorem of_write {t : OpenTable} {offset : Offset} (h : b.write t = .ok (offset, b')) :
    b'.table = none ∧ b'.lastTable = some offset := by
  simp only [write, throw_eq_error, error_bind] at h
  obtain ⟨body, -, h⟩ := bind_eq_ok.mp h
  obtain ⟨-, h⟩ := ite_error_eq_ok.mp h
  obtain ⟨o, -, h⟩ := bind_eq_ok.mp h
  cases h
  exact ⟨rfl, rfl⟩

/-- Finishing fails if the open table cannot be closed or no table was ever closed. -/
theorem of_finish_error {e : BuildError} (h : b.finish = (.error e, b')) :
    b' = { b with table := none } := by
  rw [finish] at h
  cases ht : b.table with
  | none =>
    simp only [ht, Option.isSome_none, Bool.false_eq_true, if_false] at h
    rw [(of_release_error h).2, ← ht]
  | some t =>
    simp only [ht, Option.isSome_some, if_true] at h
    cases he : b.endTable with
    | mk outcome next =>
      simp only [he] at h
      cases outcome with
      | error e' =>
        cases h
        exact of_endTable_error he
      | ok offset =>
        obtain ⟨t', -, hwrite⟩ := of_endTable_ok he
        have hnone := (of_release_error h).1
        rw [(of_write hwrite).2] at hnone
        cases hnone

end Builder

end RecordStore.Buffer

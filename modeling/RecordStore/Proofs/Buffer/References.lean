import RecordStore.Proofs.Buffer.Agreement
import RecordStore.Proofs.Buffer.Slots

/-! References from tables to children. A builder takes an offset for a child's if a child could lie
there, wherever the offset comes from: from an earlier buffer, from another builder, or from a
table. A reader of the slot gets what stands at the place. -/
namespace RecordStore.Buffer

section

universe u v

variable {α : Type u} {β : Type v} {r : α → β → Prop} {o : Option β}

theorem rel_some_left {a : α} (h : Option.Rel r (some a) o) : ∃ b, o = some b ∧ r a b := by
  cases h with
  | some h => exact ⟨_, rfl, h⟩

theorem rel_none_left (h : Option.Rel r none o) : o = none := by
  cases h
  rfl

end

/-- An account of calls as the answers tell it. -/
structure Ledger where
  /-- The children since the builder was new, with the offsets that were handed out for them. -/
  children : List (Offset × ByteArray)
  /-- What the slots of the open table refer to. -/
  current : Option (List (UInt16 × Offset))
  /-- What the slots of the table completed last refer to. -/
  completed : Option (List (UInt16 × Offset))

namespace Ledger

def new : Ledger := ⟨[], none, none⟩

/-- Enters a call and its answer. -/
def enter (l : Ledger) : Command → Except BuildError Answer → Ledger
  | .string text, .ok (.placed offset) =>
    { l with children := l.children ++ [(offset, text.toUTF8)] }
  | .byteVector data, .ok (.placed offset) => { l with children := l.children ++ [(offset, data)] }
  | .startTable _, .ok _ => { l with current := some [] }
  | .pushOffset slot offset, .ok _ =>
    { l with current := l.current.map fun references => references ++ [(slot, offset)] }
  | .endTable, .ok _ => { l with current := none, completed := l.current }
  | .endTable, .error _ => { l with current := none }
  | .finish, .ok _ => new
  | .finish, .error _ => { l with current := none }
  | .reset, _ => new
  | _, _ => l

/-- The references of the table that finishing makes the root. -/
def root? (l : Ledger) : Option (List (UInt16 × Offset)) := l.current <|> l.completed

end Ledger

/-- The account of calls on a new builder. -/
def ledger (cs : List Command) : Ledger :=
  (cs.zip (Builder.new.replies cs)).foldl (fun l made => l.enter made.1 made.2) .new

namespace Builder

@[simp] theorem length_replies (b : Builder) (cs : List Command) :
    (b.replies cs).length = cs.length := by
  induction cs generalizing b with
  | nil => rfl
  | cons c cs ih => rw [replies, List.length_cons, ih, List.length_cons]

end Builder

@[simp] theorem ledger_append (cs : List Command) (c : Command) :
    ledger (cs ++ [c]) = (ledger cs).enter c ((Builder.new.after cs).reply c) := by
  rw [ledger, Builder.replies_append, List.zip_append (by simp), List.foldl_append]
  rfl

/-- The child at an offset, as a reader takes it: a length, and as many bytes. -/
def childAt (whole : ByteArray) (offset : Offset) : Except ReadError ByteArray := do
  let length ← number 4 whole offset.position.toNat
  slice whole (offset.position.toNat + 4) length

/-- A length fits between the header and a position. -/
def Offset.InFront (offset : Offset) (position : Nat) : Prop :=
  headerSize ≤ offset.position.toNat ∧ offset.position.toNat + 4 ≤ position

theorem Builder.couldHold_iff {b : Builder} {offset : Offset} :
    b.couldHold offset = true ↔ offset.InFront b.bytes.size := by
  rw [couldHold, Bool.and_eq_true, decide_eq_true_eq, decide_eq_true_eq, Offset.InFront]

/-- A table has the references, all to places in front of it. -/
def OpenTable.Refers (t : OpenTable) (position : Nat) (references : List (UInt16 × Offset)) : Prop :=
  ∀ reference ∈ references,
    t.Holds reference.1 (some (.child reference.2)) ∧ reference.2.InFront position

namespace OpenTable.Refers

variable {t : OpenTable} {position position' : Nat} {references : List (UInt16 × Offset)}

theorem move (h : t.Refers position references) (hp : position ≤ position') :
    t.Refers position' references := fun reference hm =>
  ⟨(h reference hm).1, (h reference hm).2.1, Nat.le_trans (h reference hm).2.2 hp⟩

theorem put (h : t.Refers position references) (slot : UInt16) (cell : Option Cell) :
    (t.put slot cell).Refers position references := fun reference hm =>
  ⟨by rw [Holds, fields_put]; exact List.mem_append_left _ (h reference hm).1,
    (h reference hm).2⟩

theorem push (h : t.Refers position references) (slot : UInt16) {offset : Offset}
    (ho : offset.InFront position) :
    (t.push slot (.child offset)).Refers position (references ++ [(slot, offset)]) := by
  intro reference hm
  rcases List.mem_append.mp hm with hm | hm
  · exact h.put slot (some (.child offset)) reference hm
  · rw [List.mem_singleton.mp hm]
    exact ⟨by simp [Holds, OpenTable.push], ho⟩

end OpenTable.Refers

/-- A reader of a slot gets what stands at the offset that was written into it. -/
theorem Standing.byteVector_eq_childAt {t : OpenTable} {position : Nat} {whole : ByteArray}
    {slot offset : UInt16} {place : Offset} (h : Standing t position whole)
    (ho : offset.toNat = directoryHeaderSize + 2 * slot.toNat)
    (hh : t.Holds slot (some (.child place))) (hp : place.InFront position) :
    (t.view position whole).byteVector offset = childAt whole place := by
  obtain ⟨field, hfield, hle, hl, hr⟩ := h.field?_of_cell ho hh
  have hback : number 4 whole field = .ok (field - place.position.toNat) := number_of_lies hl hr
  have := hp.2
  have hplace : field - (field - place.position.toNat) = place.position.toNat := by omega
  rw [Table.byteVector, hfield, ok_bind]
  simp only [OpenTable.view, hback, ok_bind, hplace]
  rw [if_neg (by omega)]
  rfl

theorem Lodged.childAt_eq {position : Nat} {whole data : ByteArray} {offset : Offset}
    (h : Lodged position whole data offset) : childAt whole offset = .ok data := by
  have hdata := slice_of_lies h.lies.right
  rw [LittleEndian.size_bytes] at hdata
  rw [childAt, number_of_lies h.lies.left h.size_lt, ok_bind, hdata]

/-- The builder holds what the account of its calls says. -/
structure Ledger.Matches (l : Ledger) (b : Builder) : Prop where
  header_le : headerSize ≤ b.bytes.size
  children : ∀ child ∈ l.children, Lodged b.bytes.size b.bytes child.2 child.1
  current : Option.Rel (fun t references => t.WellFormed ∧ t.Refers b.bytes.size references)
    b.table l.current
  completed : Option.Rel
    (fun root references => ∃ t, Standing t root.position.toNat b.bytes ∧
      t.Refers root.position.toNat references)
    b.lastTable l.completed

namespace Ledger.Matches

variable {l : Ledger} {b : Builder} {c : Command}

theorem of_new : new.Matches .new :=
  ⟨by simp [Builder.new], by simp [new], .none, .none⟩

/-- Bytes that are written behind the others leave everything where it was. -/
theorem append (h : l.Matches b) (more : ByteArray) :
    l.Matches { b with bytes := b.bytes ++ more } := by
  have hle : b.bytes.size ≤ (b.bytes ++ more).size := by simp
  refine ⟨Nat.le_trans h.header_le hle, ?_, ?_, ?_⟩
  · exact fun child hm => (h.children child hm).move hle fun part p _ hl => hl.append_right more
  · exact rel_imp h.current fun t references hr => ⟨hr.1, hr.2.move hle⟩
  · exact rel_imp h.completed fun root references ⟨t, hs, hr⟩ => ⟨t, hs.append_right more, hr⟩

theorem closed (h : l.Matches b) :
    Matches { l with current := none } { b with table := none } :=
  ⟨h.header_le, h.children, .none, h.completed⟩

/-- A table that is open has an account of its references. -/
theorem exists_current (h : l.Matches b) {t : OpenTable} (ht : b.table = some t) :
    ∃ references, l.current = some references ∧ t.WellFormed ∧
      t.Refers b.bytes.size references := rel_some_left (ht ▸ h.current)

/-- A call that changes nothing unless it succeeds is told by what it does then. -/
theorem of_settle (h : l.Matches b) {α : Type} {edit : Edit α} {answer : α → Answer}
    (hc : c.edit = edit >>= fun a => pure (answer a)) {x : Except BuildError (α × Builder)}
    (he : edit.run b = Edit.settle b x) (herror : ∀ e, l.enter c (.error e) = l)
    (hok : ∀ a next, x = .ok (a, next) → (l.enter c (.ok (answer a))).Matches next) :
    (l.enter c (b.reply c)).Matches (b.next c) := by
  rw [Builder.reply, Builder.next, Builder.perform, hc, EStateM.run_bind, he]
  cases x with
  | error e => exact (herror e).symm ▸ h
  | ok made => exact hok made.1 made.2 rfl

theorem child (h : l.Matches b) {region : Region} {data : ByteArray}
    (hc : c.edit = Edit.child region data >>= fun offset => pure (.placed offset))
    (herror : ∀ e, l.enter c (.error e) = l)
    (hok : ∀ offset, l.enter c (.ok (.placed offset)) =
      { l with children := l.children ++ [(offset, data)] }) :
    (l.enter c (b.reply c)).Matches (b.next c) := by
  refine h.of_settle hc (Edit.run_child region data) herror ?_
  intro offset next ho
  obtain ⟨ht, rfl⟩ := Builder.of_child ho
  have ha := h.append (frame data)
  rw [hok]
  refine ⟨ha.header_le, ?_, ha.current, ha.completed⟩
  intro child hm
  rcases List.mem_append.mp hm with hm | hm
  · exact ha.children child hm
  · rw [List.mem_singleton.mp hm]
    exact Builder.lodged_of_child ht h.header_le ho

theorem startTable (h : l.Matches b) (slotCount : UInt32) :
    (l.enter (.startTable slotCount) (b.reply (.startTable slotCount))).Matches
      (b.next (.startTable slotCount)) := by
  refine h.of_settle rfl (Edit.run_startTable slotCount) (fun _ => rfl) ?_
  intro _ next ho
  obtain ⟨b', hb, he⟩ := map_eq_ok.mp ho
  cases he
  obtain ⟨-, hle, rfl⟩ := Builder.of_startTable hb
  have hcount : slotCount.toUInt16.toNat = slotCount.toNat := by
    rw [UInt32.toNat_toUInt16]
    exact Nat.mod_eq_of_lt (Nat.lt_of_le_of_lt hle (by decide))
  refine ⟨h.header_le, h.children, .some ⟨?_, ?_⟩, h.completed⟩
  · exact OpenTable.wellFormed_empty (by rw [hcount]; exact hle)
  · intro reference hm
    cases hm

/-- A push writes at most one field, into a slot that is free. -/
theorem push (h : l.Matches b) {α : Type} [Scalar α] (slot : UInt16) (value default : α) :
    (l.enter (.push slot value default) (b.reply (.push slot value default))).Matches
      (b.next (.push slot value default)) := by
  refine h.of_settle rfl (Edit.run_push slot value default) (fun _ => rfl) ?_
  intro _ next ho
  obtain ⟨b', hb, he⟩ := map_eq_ok.mp ho
  cases he
  obtain ⟨t, ht, hcheck, rfl⟩ := Builder.of_push hb
  obtain ⟨references, hl, hwf, hr⟩ := h.exists_current ht
  have hput : (t.put slot (scalarCell value default)).WellFormed := by
    cases scalarCell value default with
    | none => exact hwf
    | some cell => exact hwf.push hcheck cell
  refine ⟨h.header_le, h.children, ?_, h.completed⟩
  change Option.Rel _ _ l.current
  rw [hl]
  exact .some ⟨hput, hr.put slot _⟩

theorem pushOffset (h : l.Matches b) (slot : UInt16) (offset : Offset) :
    (l.enter (.pushOffset slot offset) (b.reply (.pushOffset slot offset))).Matches
      (b.next (.pushOffset slot offset)) := by
  refine h.of_settle rfl (Edit.run_pushOffset slot offset) (fun _ => rfl) ?_
  intro _ next ho
  obtain ⟨b', hb, he⟩ := map_eq_ok.mp ho
  cases he
  have hheld : b.couldHold offset := by
    by_contra ho
    rw [Builder.pushOffset_of_not_couldHold ho] at hb
    cases hb
  obtain ⟨t, ht, hcheck, rfl⟩ := Builder.of_pushOffset hb
  obtain ⟨references, hl, hwf, hr⟩ := h.exists_current ht
  refine ⟨h.header_le, h.children, ?_, h.completed⟩
  simp only [Ledger.enter, hl, Option.map_some]
  exact .some ⟨hwf.push hcheck _, hr.push slot (Builder.couldHold_iff.mp hheld)⟩

theorem endTable (h : l.Matches b) :
    (l.enter .endTable (b.reply .endTable)).Matches (b.next .endTable) := by
  cases hr : b.reply .endTable with
  | error e =>
    rw [Builder.next_eq_of_closes_error (c := .endTable) trivial hr]
    exact h.closed
  | ok answer =>
    obtain ⟨root, ho⟩ := Builder.of_reply_ok rfl Edit.run_endTable hr
    obtain ⟨t, ht, hw⟩ := Builder.of_endTable_ok ho
    obtain ⟨references, hl, hwf, hrefers⟩ := h.exists_current ht
    have hstand := Standing.of_write hwf h.header_le hw
    obtain ⟨-, -, hp, hroot, hnext⟩ := (Builder.write_eq_ok hwf).mp hw
    -- The directory and the table are written behind what is there.
    have ha := (h.closed.append t.directory).append (t.body (b.bytes.size + t.directorySize))
    rw [hnext] at hstand ⊢
    refine ⟨ha.header_le, ha.children, .none, ?_⟩
    rw [Ledger.enter, hl]
    refine .some ⟨t, hstand, hrefers.move ?_⟩
    rw [hroot, UInt32.toNat_ofNat_of_lt' hp]
    omega

theorem finish (h : l.Matches b) :
    (l.enter .finish (b.reply .finish)).Matches (b.next .finish) := by
  cases hr : b.reply .finish with
  | error e =>
    rw [Builder.next_eq_of_closes_error (c := .finish) trivial hr]
    exact h.closed
  | ok answer =>
    rw [Builder.next_finish hr]
    exact of_new

theorem enter (h : l.Matches b) (c : Command) : (l.enter c (b.reply c)).Matches (b.next c) := by
  cases c with
  | string text => exact h.child rfl (fun _ => rfl) fun _ => rfl
  | byteVector data => exact h.child rfl (fun _ => rfl) fun _ => rfl
  | startTable slotCount => exact h.startTable slotCount
  | push slot value default => exact h.push slot value default
  | pushOffset slot offset => exact h.pushOffset slot offset
  | endTable => exact h.endTable
  | finish => exact h.finish
  | reset => exact of_new

end Ledger.Matches

theorem ledger_matches (cs : List Command) : (ledger cs).Matches (Builder.new.after cs) := by
  induction cs using List.reverseRecOn with
  | nil => exact .of_new
  | append_singleton cs c ih =>
    rw [ledger_append, Builder.after_append]
    exact ih.enter c

theorem Builder.reply_finish (b : Builder) : b.reply .finish = b.finish.1.map .finished := by
  have hc : Command.finish.edit = Edit.finish >>= fun bytes => pure (.finished bytes) := rfl
  rw [reply, perform, hc, EStateM.run_bind, Edit.run_finish]
  obtain ⟨outcome, next⟩ := b.finish
  cases outcome <;> rfl

namespace Ledger.Matches

variable {l : Ledger} {b : Builder} {bytes : ByteArray}

/-- A finished buffer shows the references of the root, and holds the children. -/
theorem finished (h : l.Matches b) (hf : b.finish.1 = .ok bytes) :
    ∃ references t position, l.root? = some references ∧ Standing t position bytes ∧
      t.Refers position references ∧ Table.root bytes = .ok (t.view position bytes) ∧
      ∀ child ∈ l.children, childAt bytes child.1 = .ok child.2 := by
  cases ht : b.table with
  | some t =>
    obtain ⟨references, hl, hwf, hr⟩ := h.exists_current ht
    obtain ⟨position, hstand, hroot, hle, -, hmoved⟩ :=
      Builder.root_of_finish ht hwf h.header_le hf
    exact ⟨references, t, position, by simp [root?, hl], hstand, hr.move hle, hroot,
      fun child hm => ((h.children child hm).move (Nat.le_refl _) hmoved).childAt_eq⟩
  | none =>
    have hcurrent : l.current = none := rel_none_left (ht ▸ h.current)
    simp only [Builder.finish, ht, Option.isSome_none, Bool.false_eq_true, if_false] at hf
    cases hlast : b.lastTable with
    | none => simp [Builder.release, hlast] at hf
    | some root =>
      obtain ⟨references, hl, t, hs, hr⟩ := rel_some_left (hlast ▸ h.completed)
      obtain ⟨hstand, hroot, hmoved⟩ := Builder.root_of_release hs hlast hf
      exact ⟨references, t, _, by simp [root?, hcurrent, hl], hstand, hr, hroot,
        fun child hm => ((h.children child hm).move (Nat.le_refl _) hmoved).childAt_eq⟩

end Ledger.Matches

/-- An offset is the one that was handed out for a child. -/
def Ledger.Knows (l : Ledger) (offset : Offset) : Prop := ∃ data, (offset, data) ∈ l.children

/-- All references are to children. -/
structure Ledger.Backed (l : Ledger) : Prop where
  current : ∀ references ∈ l.current, ∀ reference ∈ references, l.Knows reference.2
  completed : ∀ references ∈ l.completed, ∀ reference ∈ references, l.Knows reference.2

namespace Ledger.Backed

variable {l : Ledger}

theorem of_new : new.Backed := ⟨by simp [new], by simp [new]⟩

theorem closed (h : l.Backed) : Backed { l with current := none } := ⟨by simp, h.completed⟩

theorem child (h : l.Backed) (child : Offset × ByteArray) :
    Backed { l with children := l.children ++ [child] } := by
  have hmore {offset : Offset} (hk : l.Knows offset) :
      Knows { l with children := l.children ++ [child] } offset :=
    hk.imp fun data hm => List.mem_append_left _ hm
  exact ⟨fun references hr reference hm => hmore (h.current references hr reference hm),
    fun references hr reference hm => hmore (h.completed references hr reference hm)⟩

theorem reference (h : l.Backed) (slot : UInt16) {offset : Offset} (ho : l.Knows offset) :
    Backed { l with current := l.current.map fun references => references ++ [(slot, offset)] } := by
  refine ⟨?_, h.completed⟩
  intro references hr reference hm
  obtain ⟨earlier, hl, rfl⟩ := Option.map_eq_some_iff.mp hr
  rcases List.mem_append.mp hm with hm | hm
  · exact h.current earlier hl reference hm
  · rw [List.mem_singleton.mp hm]
    exact ho

theorem root (h : l.Backed) {references : List (UInt16 × Offset)}
    (hr : l.root? = some references) : ∀ reference ∈ references, l.Knows reference.2 := by
  rw [root?] at hr
  cases hl : l.current with
  | some opened =>
    rw [hl] at hr
    cases hr
    exact h.current references hl
  | none =>
    rw [hl] at hr
    exact h.completed references hr

/-- A call leaves all references to children, if it pushes only such references. -/
theorem enter (h : l.Backed) (c : Command) (r : Except BuildError Answer)
    (hc : ∀ slot offset answer, c = .pushOffset slot offset → r = .ok answer → l.Knows offset) :
    (l.enter c r).Backed := by
  fun_cases Ledger.enter l c r with
  | case1 => exact h.child _
  | case2 => exact h.child _
  | case3 => exact ⟨by simp, h.completed⟩
  | case4 slot offset answer => exact h.reference slot (hc slot offset answer rfl rfl)
  | case5 => exact ⟨by simp, h.current⟩
  | case6 => exact h.closed
  | case7 => exact of_new
  | case8 => exact h.closed
  | case9 => exact of_new
  | case10 => exact h

end Ledger.Backed

namespace Builder

theorem reply_pushOffset (b : Builder) (slot : UInt16) (offset : Offset) :
    b.reply (.pushOffset slot offset) =
      if b.couldHold offset then
        b.table.elim (.error .noTableOpen) fun t => t.verdict slot (t.has slot)
      else .error (.invalidOffset offset.position) := by
  cases ht : b.table with
  | some t =>
    rw [reply_push ht rfl, pushAnswer, refusal?]
    by_cases ho : b.couldHold offset
    · rw [if_pos ho, if_pos ho]
      rfl
    · rw [if_neg ho, if_neg ho]
  | none =>
    have he := Edit.run_pushOffset (b := b) slot offset
    by_cases ho : b.couldHold offset
    · have hp : b.pushOffset slot offset = .error .noTableOpen := by
        simp [pushOffset, ho, tableFor, ht]
      rw [hp] at he
      rw [reply, perform_of_error (f := fun _ => .done) rfl he, if_pos ho]
      rfl
    · rw [pushOffset_of_not_couldHold ho] at he
      rw [reply, perform_of_error (f := fun _ => .done) rfl he, if_neg ho]

theorem couldHold_of_reply {b : Builder} {slot : UInt16} {offset : Offset} {answer : Answer}
    (h : b.reply (.pushOffset slot offset) = .ok answer) : b.couldHold offset := by
  by_contra ho
  rw [reply_pushOffset, if_neg ho] at h
  cases h

end Builder

/-- Of the offsets that calls pushed, those that were not out of place had been handed out for
children since the builder was new. -/
def RefersToChildren (cs : List Command) : Prop :=
  ∀ before slot offset after, cs = before ++ .pushOffset slot offset :: after →
    (Builder.new.after before).couldHold offset → (ledger before).Knows offset

theorem ledger_backed {cs : List Command} (h : RefersToChildren cs) : (ledger cs).Backed := by
  induction cs using List.reverseRecOn with
  | nil => exact .of_new
  | append_singleton cs c ih =>
    have hinit : RefersToChildren cs := by
      rintro before slot offset after rfl
      exact h before slot offset (after ++ [c]) (by simp)
    rw [ledger_append]
    refine (ih hinit).enter c _ ?_
    rintro slot offset answer rfl hr
    exact h cs slot offset [] rfl (Builder.couldHold_of_reply hr)

/-- An offset is accepted for the place it names: a length has to fit there, and the slot has to be
free. Every child is at such a place, and a reader of a slot that refers to a place gets what stands
there. If the offsets that were pushed, but for those out of place, had been handed out for
children since the builder was new, then only such offsets were accepted, and the slots of a
finished buffer read as children of that buffer. -/
theorem references_checked_by_place (cs : List Command) :
    (∀ slot offset, (Builder.new.after cs).reply (.pushOffset slot offset) =
      if (Builder.new.after cs).couldHold offset then
        (Builder.new.after cs).table.elim (.error .noTableOpen) fun t => t.verdict slot (t.has slot)
      else .error (.invalidOffset offset.position)) ∧
    (∀ child ∈ (ledger cs).children, (Builder.new.after cs).couldHold child.1) ∧
    (∀ bytes, (Builder.new.after cs).reply .finish = .ok (.finished bytes) →
      ∃ references table, (ledger cs).root? = some references ∧ Table.root bytes = .ok table ∧
        ∀ reference ∈ references, ∃ field, slotOffset reference.1 = .ok field ∧
          table.byteVector field = childAt bytes reference.2) ∧
    (RefersToChildren cs →
      (∀ before slot offset after, cs = before ++ .pushOffset slot offset :: after →
        (Builder.new.after before).reply (.pushOffset slot offset) = .ok .done →
          (ledger before).Knows offset) ∧
      ∀ bytes, (Builder.new.after cs).reply .finish = .ok (.finished bytes) →
        ∃ references table, (ledger cs).root? = some references ∧ Table.root bytes = .ok table ∧
          ∀ reference ∈ references, ∃ field data, slotOffset reference.1 = .ok field ∧
            (reference.2, data) ∈ (ledger cs).children ∧ table.byteVector field = .ok data) := by
  have hmatches := ledger_matches cs
  have hread (bytes : ByteArray)
      (hr : (Builder.new.after cs).reply .finish = .ok (.finished bytes)) :
      ∃ references table, (ledger cs).root? = some references ∧ Table.root bytes = .ok table ∧
        (∀ reference ∈ references, ∃ field, slotOffset reference.1 = .ok field ∧
          table.byteVector field = childAt bytes reference.2) ∧
        ∀ child ∈ (ledger cs).children, childAt bytes child.1 = .ok child.2 := by
    rw [Builder.reply_finish] at hr
    obtain ⟨bytes', hf, he⟩ := map_eq_ok.mp hr
    cases he
    obtain ⟨references, t, position, hl, hs, hrefers, hroot, hchildren⟩ := hmatches.finished hf
    refine ⟨references, _, hl, hroot, ?_, hchildren⟩
    intro reference hm
    obtain ⟨hh, hp⟩ := hrefers reference hm
    have hlt := UInt16.lt_iff_toNat_lt.mp (hs.wellFormed.slot_lt _ hh)
    obtain ⟨field, ho⟩ := exists_slotOffset (Nat.lt_of_lt_of_le hlt hs.wellFormed.slotCount_le)
    exact ⟨field, ho, hs.byteVector_eq_childAt (slotOffset_eq_ok.mp ho) hh hp⟩
  refine ⟨(Builder.new.after cs).reply_pushOffset, ?_, ?_, ?_⟩
  · exact fun child hm => (hmatches.children child hm).couldHold
  · intro bytes hr
    obtain ⟨references, table, hl, hroot, hrefers, -⟩ := hread bytes hr
    exact ⟨references, table, hl, hroot, hrefers⟩
  · intro h
    refine ⟨?_, ?_⟩
    · rintro before slot offset after rfl hr
      exact h before slot offset after rfl (Builder.couldHold_of_reply hr)
    · intro bytes hr
      obtain ⟨references, table, hl, hroot, hrefers, hchildren⟩ := hread bytes hr
      refine ⟨references, table, hl, hroot, ?_⟩
      intro reference hm
      obtain ⟨field, ho, hb⟩ := hrefers reference hm
      obtain ⟨data, hd⟩ := (ledger_backed h).root hl reference hm
      exact ⟨field, data, ho, hd, hb.trans (hchildren _ hd)⟩

/-- Two children, and a table that refers to the first; an offset beyond the bytes is refused. -/
def sampleReferences : List Command :=
  [.string "ab", .byteVector ⟨#[1]⟩, .startTable 3, .pushOffset 2 ⟨4⟩, .pushOffset 0 ⟨90⟩]

theorem refersToChildren_sample : RefersToChildren sampleReferences := by
  intro before slot offset after hcs ho
  rcases before with _ | ⟨c₁, _ | ⟨c₂, _ | ⟨c₃, _ | ⟨c₄, _ | ⟨c₅, before⟩⟩⟩⟩⟩ <;>
    simp [sampleReferences] at hcs
  · obtain ⟨rfl, rfl, rfl, ⟨rfl, rfl⟩, -⟩ := hcs
    exact ⟨"ab".toUTF8, List.mem_of_getElem? (i := 0) (by decide +kernel)⟩
  · obtain ⟨rfl, rfl, rfl, rfl, ⟨rfl, rfl⟩, -⟩ := hcs
    exact absurd ho (by decide +kernel)

theorem references_checked_by_place_sample :
    RefersToChildren sampleReferences ∧
      ∃ bytes references table,
        (Builder.new.after sampleReferences).reply .finish = .ok (.finished bytes) ∧
        (ledger sampleReferences).root? = some references ∧ references = [(2, ⟨4⟩)] ∧
        Table.root bytes = .ok table ∧
        ∀ reference ∈ references, ∃ field data, slotOffset reference.1 = .ok field ∧
          (reference.2, data) ∈ (ledger sampleReferences).children ∧
          table.byteVector field = .ok data := by
  have hfinish : (Builder.new.after sampleReferences).reply .finish =
      .ok (.finished ⟨#[25, 0, 0, 0, 2, 0, 0, 0, 97, 98, 1, 0, 0, 0, 1, 10, 0, 8, 0, 0, 0, 0, 0,
        4, 0, 10, 0, 0, 0, 25, 0, 0, 0]⟩) := by
    decide +kernel
  obtain ⟨references, table, hl, hroot, hread⟩ :=
    ((references_checked_by_place sampleReferences).2.2.2 refersToChildren_sample).2 _ hfinish
  refine ⟨refersToChildren_sample, _, references, table, hfinish, hl, ?_, hroot, hread⟩
  exact Option.some.inj (hl.symm.trans (by decide +kernel))

/-- The offset of a table passes for the one of a child, though the builder never wrote a child; a
reader of the slot takes the size of the table's directory for a length, and gets bytes of the
directory that follows. -/
theorem table_accepted_as_child :
    (ledger [.startTable 0, .endTable, .startTable 1]).children = [] ∧
      Builder.new.replies [.startTable 0, .endTable, .startTable 1, .pushOffset 0 ⟨8⟩, .finish] =
        [.ok .done, .ok (.placed ⟨8⟩), .ok .done, .ok .done,
          .ok (.finished ⟨#[18, 0, 0, 0, 4, 0, 4, 0, 4, 0, 0, 0, 6, 0, 8, 0, 4, 0, 6, 0, 0, 0,
            14, 0, 0, 0]⟩)] ∧
      (Table.root ⟨#[18, 0, 0, 0, 4, 0, 4, 0, 4, 0, 0, 0, 6, 0, 8, 0, 4, 0, 6, 0, 0, 0,
            14, 0, 0, 0]⟩ >>= fun table => table.byteVector 4) = .ok ⟨#[6, 0, 8, 0]⟩ := by
  refine ⟨by decide +kernel, by decide +kernel, by decide +kernel⟩

end RecordStore.Buffer

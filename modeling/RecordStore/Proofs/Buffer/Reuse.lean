import Mathlib.Data.List.Induction
import RecordStore.Proofs.Buffer.Edit
import RecordStore.Proofs.Buffer.Session

/-! Builders that go on after calls failed, and after they handed out a buffer: what a failing call
leaves behind, and that nothing of an earlier buffer is left in a later one. -/
namespace RecordStore.Buffer

/-- Whether a call ends what is being built: the table, or the buffer as a whole. -/
def Command.Closes : Command → Prop
  | endTable | finish | reset => True
  | _ => False

namespace Builder

/-- What a call that ends nothing can do: fail and change nothing, write a child, open a table, or
write into the open table. -/
inductive Builds (b : Builder) : Command → Except BuildError Answer → Builder → Prop
  | failed {c : Command} (e : BuildError) : Builds b c (.error e) b
  | child {c : Command} {offset : Offset} (ht : b.table = none) (bytes : ByteArray) :
    Builds b c (.ok (.placed offset)) { b with bytes := b.bytes ++ bytes }
  | start {slotCount : UInt32} (ht : b.table = none) (t : OpenTable) :
    Builds b (.startTable slotCount) (.ok .done) { b with table := some t }
  | push {c : Command} {t : OpenTable} (ht : b.table = some t) (t' : OpenTable) :
    Builds b c (.ok .done) { b with table := some t' }

variable {b : Builder} {c : Command} {e : BuildError}

section

variable {α : Type} {edit : Edit α} {answer : α → Answer} {x : Except BuildError α × Builder}

theorem of_reply_ok (hc : c.edit = edit >>= fun a => pure (answer a))
    (hx : edit.run b = Edit.leave x) {made : Answer} (h : b.reply c = .ok made) :
    ∃ a, x = (.ok a, b.next c) := by
  rw [reply, perform, hc, EStateM.run_bind, hx] at h
  rw [next, perform, hc, EStateM.run_bind, hx]
  obtain ⟨outcome, next⟩ := x
  cases outcome with
  | ok a => exact ⟨a, rfl⟩
  | error e => cases h

theorem of_reply_error (hc : c.edit = edit >>= fun a => pure (answer a))
    (hx : edit.run b = Edit.leave x) (h : b.reply c = .error e) : x = (.error e, b.next c) := by
  rw [reply, perform, hc, EStateM.run_bind, hx] at h
  rw [next, perform, hc, EStateM.run_bind, hx]
  obtain ⟨outcome, next⟩ := x
  cases outcome with
  | ok a => cases h
  | error e' =>
    cases h
    rfl

end

/-- Calls that change nothing unless they succeed are told by what they do then. -/
theorem builds_of_settle {α : Type} {edit : Edit α} {answer : α → Answer}
    (hc : c.edit = edit >>= fun a => pure (answer a)) {x : Except BuildError (α × Builder)}
    (he : edit.run b = Edit.settle b x)
    (hx : ∀ a next, x = .ok (a, next) → b.Builds c (.ok (answer a)) next) :
    b.Builds c (b.reply c) (b.next c) := by
  rw [reply, next, perform, hc, EStateM.run_bind, he]
  cases x with
  | error e => exact .failed e
  | ok made => exact hx made.1 made.2 rfl

theorem builds_child {region : Region} {data : ByteArray}
    (hc : c.edit = Edit.child region data >>= fun offset => pure (.placed offset)) :
    b.Builds c (b.reply c) (b.next c) := by
  refine builds_of_settle hc (Edit.run_child region data) ?_
  intro offset next ho
  obtain ⟨ht, rfl⟩ := of_child ho
  exact .child ht _

theorem builds (h : ¬ c.Closes) : b.Builds c (b.reply c) (b.next c) := by
  cases c with
  | string text => exact builds_child rfl
  | byteVector data => exact builds_child rfl
  | startTable slotCount =>
    refine builds_of_settle rfl (Edit.run_startTable slotCount) ?_
    intro _ next ho
    obtain ⟨b', hb, he⟩ := map_eq_ok.mp ho
    cases he
    obtain ⟨ht, -, rfl⟩ := of_startTable hb
    exact .start ht _
  | push slot value default =>
    refine builds_of_settle rfl (Edit.run_push slot value default) ?_
    intro _ next ho
    obtain ⟨b', hb, he⟩ := map_eq_ok.mp ho
    cases he
    obtain ⟨t, ht, -, rfl⟩ := of_push hb
    exact .push ht _
  | pushOffset slot offset =>
    refine builds_of_settle rfl (Edit.run_pushOffset slot offset) ?_
    intro _ next ho
    obtain ⟨b', hb, he⟩ := map_eq_ok.mp ho
    cases he
    obtain ⟨t, ht, -, rfl⟩ := of_pushOffset hb
    exact .push ht _
  | endTable | finish | reset => exact absurd trivial h

/-- A call that ends nothing and fails has changed nothing. -/
theorem next_eq_of_error (h : ¬ c.Closes) (he : b.reply c = .error e) : b.next c = b := by
  have hb := @builds b c h
  rw [he] at hb
  generalize b.next c = next at hb ⊢
  cases hb
  rfl

theorem next_finish {answer : Answer} (h : b.reply .finish = .ok answer) :
    b.next .finish = new := by
  obtain ⟨bytes, hf⟩ := of_reply_ok rfl Edit.run_finish h
  exact of_finish_ok hf

theorem next_reset : b.next .reset = new := rfl

/-- A call that cannot end what it should gives up the open table and changes nothing else. -/
theorem next_eq_of_closes_error (h : c.Closes) (he : b.reply c = .error e) :
    b.next c = { b with table := none } := by
  cases c with
  | endTable => exact of_endTable_error (of_reply_error rfl Edit.run_endTable he)
  | finish => exact of_finish_error (of_reply_error rfl Edit.run_finish he)
  | reset => cases he
  | string | byteVector | startTable | push | pushOffset => exact h.elim

/-- Whatever a call ends, no table is open afterwards. -/
theorem table_next_of_closes (h : c.Closes) : (b.next c).table = none := by
  cases hr : b.reply c with
  | error e => rw [next_eq_of_closes_error h hr]
  | ok answer =>
    cases c with
    | endTable =>
      obtain ⟨offset, ho⟩ := of_reply_ok rfl Edit.run_endTable hr
      obtain ⟨t, -, hw⟩ := of_endTable_ok ho
      exact (of_write hw).1
    | finish =>
      rw [next_finish hr]
      rfl
    | reset => rfl
    | string | byteVector | startTable | push | pushOffset => exact h.elim

@[simp] theorem after_append (cs : List Command) (c : Command) :
    b.after (cs ++ [c]) = (b.after cs).next c := by
  simp [after]

/-- A builder that calls led to has a table that one of them opened, and all that came since is in
the table: without it, the builder is as it was before. -/
def OpenedAmong (b : Builder) (cs : List Command) (last : Builder) : Prop :=
  ∃ before slotCount inner, cs = before ++ .startTable slotCount :: inner ∧
    (b.after before).reply (.startTable slotCount) = .ok .done ∧ (∀ c ∈ inner, ¬ c.Closes) ∧
    b.after before = { last with table := none }

theorem OpenedAmong.append {cs : List Command} {last last' : Builder} (h : b.OpenedAmong cs last)
    (hc : ¬ c.Closes) (hl : { last with table := none } = { last' with table := none }) :
    b.OpenedAmong (cs ++ [c]) last' := by
  obtain ⟨before, slotCount, inner, rfl, hs, hi, hbefore⟩ := h
  refine ⟨before, slotCount, inner ++ [c], by simp, hs, ?_, hbefore.trans hl⟩
  intro c' hm
  rcases List.mem_append.mp hm with hm | hm
  · exact hi c' hm
  · rwa [List.mem_singleton.mp hm]

theorem openedAmong {cs : List Command} (hb : b.table = none) (ht : (b.after cs).table ≠ none) :
    b.OpenedAmong cs (b.after cs) := by
  -- From behind: the last call closed the table, opened it, or left it open.
  induction cs using List.reverseRecOn with
  | nil => exact absurd hb ht
  | append_singleton cs c ih =>
    rw [after_append] at ht ⊢
    by_cases hc : c.Closes
    · exact absurd (table_next_of_closes hc) ht
    · have hbuilds := @builds (b.after cs) c hc
      generalize hr : (b.after cs).reply c = outcome at hbuilds
      generalize (b.after cs).next c = last at hbuilds ht ⊢
      cases hbuilds with
      | failed e => exact (ih ht).append hc rfl
      | child hnone bytes => exact absurd hnone ht
      | start hnone t => exact ⟨cs, _, [], rfl, hr, by simp, by rw [← hnone]⟩
      | push hopen t' => exact (ih (by simp [hopen])).append hc rfl

end Builder

/-- A builder that was reset, or that handed out a buffer, goes on like a new one. A call that ends
nothing and fails changes nothing. One that cannot end what it should leaves what was written and
the table completed last as they are and gives up the open table: the builder is as it was before
the table was opened. -/
theorem builder_reusable (cs : List Command) :
    (∀ answer more, (Builder.new.after cs).reply .finish = .ok answer →
      ((Builder.new.after cs).next .finish).replies more = Builder.new.replies more) ∧
    (∀ more, ((Builder.new.after cs).next .reset).replies more = Builder.new.replies more) ∧
    (∀ c e, ¬ c.Closes → (Builder.new.after cs).reply c = .error e →
      (Builder.new.after cs).next c = Builder.new.after cs) ∧
    ∀ c e, c.Closes → (Builder.new.after cs).reply c = .error e →
      ((Builder.new.after cs).next c).bytes = (Builder.new.after cs).bytes ∧
      ((Builder.new.after cs).next c).lastTable = (Builder.new.after cs).lastTable ∧
      ((Builder.new.after cs).next c).table = none ∧
      ((Builder.new.after cs).table = none →
        (Builder.new.after cs).next c = Builder.new.after cs) ∧
      ((Builder.new.after cs).table ≠ none →
        ∃ before slotCount inner, cs = before ++ .startTable slotCount :: inner ∧
          (Builder.new.after before).reply (.startTable slotCount) = .ok .done ∧
          (∀ c ∈ inner, ¬ c.Closes) ∧
          (Builder.new.after cs).next c = Builder.new.after before) := by
  refine ⟨?_, ?_, ?_, ?_⟩
  · intro answer more h
    rw [Builder.next_finish h]
  · intro more
    rw [Builder.next_reset]
  · intro c e h he
    exact Builder.next_eq_of_error h he
  · intro c e h he
    rw [Builder.next_eq_of_closes_error h he]
    refine ⟨rfl, rfl, rfl, fun hnone => by rw [← hnone], ?_⟩
    intro hopen
    obtain ⟨before, slotCount, inner, hcs, hs, hi, hbefore⟩ := Builder.openedAmong rfl hopen
    exact ⟨before, slotCount, inner, hcs, hs, hi, hbefore.symm⟩

/-- Nothing was built at first; a text comes too late for the table that is open. -/
example : Builder.new.replies [.finish, .startTable 1, .push 0 true false, .string "a", .finish] =
    [.error .noRoot, .ok .done, .ok .done, .error .tableOpen,
      .ok (.finished ⟨#[10, 0, 0, 0, 6, 0, 5, 0, 4, 0, 6, 0, 0, 0, 1]⟩)] := by decide +kernel

end RecordStore.Buffer

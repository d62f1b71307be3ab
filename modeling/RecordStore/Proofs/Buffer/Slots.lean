import Mathlib.Data.List.Nodup
import RecordStore.Proofs.Buffer.Reuse

/-! Pushes into an open table, and which of them are accepted. A slot takes one field. A value that
readers fall back to is accepted without a field, and leaves its slot to the next push. -/
namespace RecordStore.Buffer

namespace Command

/-- The slot that a push is for. -/
def slot? : Command → Option UInt16
  | push slot _ _ => some slot
  | pushOffset slot _ => some slot
  | _ => none

/-- What a push puts into its slot: nothing if readers fall back to its value. -/
def cell? : Command → Option Cell
  | push _ value default => scalarCell value default
  | pushOffset _ offset => some (.child offset)
  | _ => none

end Command

/-- The answer to a push if no offset is wrong, given whether a field has taken its slot. -/
def OpenTable.verdict (t : OpenTable) (slot : UInt16) (taken : Bool) : Except BuildError Answer :=
  if t.slotCount ≤ slot then .error (.slotOutOfRange slot t.slotCount)
  else if taken then .error (.duplicateSlot slot)
  else .ok .done

namespace OpenTable

variable {t : OpenTable} {slot : UInt16}

theorem has_put (t : OpenTable) (slot other : UInt16) (cell : Option Cell) :
    (t.put slot cell).has other = (t.has other || (cell.isSome && slot == other)) := by
  cases cell <;> simp [put, push, has]

theorem check_map (t : OpenTable) (slot : UInt16) :
    (t.check slot).map (fun _ => Answer.done) = t.verdict slot (t.has slot) := by
  rw [check, verdict]
  by_cases hs : t.slotCount ≤ slot
  · simp [hs, Except.map]
  · by_cases hh : t.has slot <;> simp [hs, hh, Except.map]

end OpenTable

namespace Builder

variable {b : Builder} {t : OpenTable} {c : Command} {slot : UInt16}

/-- Why a push fails before its slot is looked at: its offset is out of place. -/
def refusal? (b : Builder) : Command → Option BuildError
  | .pushOffset _ offset =>
    if b.couldHold offset then none else some (.invalidOffset offset.position)
  | _ => none

/-- The answer to a push, given whether a field has taken its slot. -/
def pushAnswer (b : Builder) (t : OpenTable) (c : Command) (slot : UInt16) (taken : Bool) :
    Except BuildError Answer :=
  match b.refusal? c with
  | some e => .error e
  | none => t.verdict slot taken

/-- Whether a push takes its slot, if the table has the slot. -/
def fills (b : Builder) (c : Command) : Bool := (b.refusal? c).isNone && c.cell?.isSome

theorem refusal?_congr {b' : Builder} (h : b'.bytes = b.bytes) : b'.refusal? = b.refusal? := by
  funext c
  cases c with
  | pushOffset slot offset => rw [refusal?, refusal?, couldHold, couldHold, h]
  | _ => rfl

theorem perform_of_ok {α : Type} {edit : Edit α} {f : α → Answer}
    (hc : c.edit = edit >>= fun a => pure (f a)) {a : α} {next : Builder}
    (he : edit.run b = Edit.settle b (.ok (a, next))) : b.perform c = (.ok (f a), next) := by
  rw [perform, hc, EStateM.run_bind, he]
  rfl

theorem perform_of_error {α : Type} {edit : Edit α} {f : α → Answer}
    (hc : c.edit = edit >>= fun a => pure (f a)) {e : BuildError}
    (he : edit.run b = Edit.settle b (.error e)) : b.perform c = (.error e, b) := by
  rw [perform, hc, EStateM.run_bind, he]
  rfl

theorem pushOffset_of_not_couldHold {offset : Offset} (ho : ¬ b.couldHold offset) (slot : UInt16) :
    b.pushOffset slot offset = .error (.invalidOffset offset.position) := by
  simp [pushOffset, ho]

/-- What a push does to the table that is open. -/
theorem perform_push (ht : b.table = some t) (hc : c.slot? = some slot) :
    b.perform c =
      match b.refusal? c, t.check slot with
      | some e, _ => (.error e, b)
      | none, .error e => (.error e, b)
      | none, .ok () => (.ok .done, { b with table := some (t.put slot c.cell?) }) := by
  cases c with
  | push s value default =>
    cases hc
    have he := Edit.run_push (b := b) slot value default
    cases hk : t.check slot with
    | error e =>
      have hp : b.push slot value default = .error e := by simp [push, tableFor, ht, hk]
      rw [hp] at he
      exact perform_of_error rfl he
    | ok _ =>
      rw [push_eq ht hk value default] at he
      exact perform_of_ok (f := fun _ => .done) rfl he
  | pushOffset s offset =>
    cases hc
    have he := Edit.run_pushOffset (b := b) slot offset
    rw [refusal?]
    by_cases ho : b.couldHold offset
    · rw [if_pos ho]
      cases hk : t.check slot with
      | error e =>
        have hp : b.pushOffset slot offset = .error e := by
          simp [pushOffset, ho, tableFor, ht, hk]
        rw [hp] at he
        exact perform_of_error rfl he
      | ok _ =>
        rw [pushOffset_eq ht hk ho] at he
        exact perform_of_ok (f := fun _ => .done) rfl he
    · rw [pushOffset_of_not_couldHold ho] at he
      rw [if_neg ho]
      exact perform_of_error rfl he
  | string | byteVector | startTable | endTable | finish | reset => cases hc

/-- The answer to a push. -/
theorem reply_push (ht : b.table = some t) (hc : c.slot? = some slot) :
    b.reply c = b.pushAnswer t c slot (t.has slot) := by
  rw [reply, perform_push ht hc, pushAnswer, ← OpenTable.check_map]
  cases b.refusal? c with
  | some e => rfl
  | none => cases t.check slot <;> rfl

/-- A table that pushes came to from another. Of its slots those are taken that were taken before,
and those that a push has filled. -/
def Pushed (b : Builder) (t : OpenTable) (cs : List Command) (last : Builder) : Prop :=
  ∃ t', last.table = some t' ∧ last.bytes = b.bytes ∧ t'.slotCount = t.slotCount ∧
    ∀ slot < t.slotCount,
      t'.has slot = (t.has slot || cs.any fun c => c.slot? == some slot && b.fills c)

theorem Pushed.append {cs : List Command} {last : Builder} (h : b.Pushed t cs last)
    (hc : c.slot? = some slot) : b.Pushed t (cs ++ [c]) (last.next c) := by
  obtain ⟨t', ht, hb, hn, hh⟩ := h
  rw [next, perform_push ht hc, refusal?_congr hb]
  cases hr : b.refusal? c with
  | some e =>
    refine ⟨t', ht, hb, hn, ?_⟩
    intro s hs
    simp [hh s hs, fills, hr]
  | none =>
    cases hk : t'.check slot with
    | ok _ =>
      refine ⟨t'.put slot c.cell?, rfl, hb, by rw [OpenTable.slotCount_put, hn], ?_⟩
      intro s hs
      rw [OpenTable.has_put, hh s hs]
      simp [fills, hr, hc, Bool.or_assoc, Bool.and_comm]
    | error e =>
      refine ⟨t', ht, hb, hn, ?_⟩
      intro s hs
      -- A slot that the table has was refused because it is taken.
      have hkeep : s = slot → t'.has s = true := by
        rintro rfl
        rw [OpenTable.check, hn, if_neg (UInt16.not_le.mpr hs)] at hk
        by_cases ht' : t'.has s
        · exact ht'
        · rw [if_neg ht'] at hk
          cases hk
      rw [List.any_append, ← Bool.or_assoc, ← hh s hs, List.any_cons, List.any_nil, Bool.or_false]
      by_cases he : s = slot
      · rw [hkeep he, Bool.true_or]
      · have hne : (c.slot? == some s) = false := by
          rw [hc]
          simpa using fun h => he h.symm
        rw [hne, Bool.false_and, Bool.or_false]

theorem pushed_after (ht : b.table = some t) {cs : List Command}
    (hp : ∀ c ∈ cs, c.slot?.isSome) : b.Pushed t cs (b.after cs) := by
  induction cs using List.reverseRecOn with
  | nil => exact ⟨t, ht, rfl, rfl, by simp⟩
  | append_singleton cs c ih =>
    obtain ⟨slot, hc⟩ := Option.isSome_iff_exists.mp (hp c (by simp))
    rw [after_append]
    exact (ih fun c' hc' => hp c' (by simp [hc'])).append hc

/-- The answer to a push that comes behind others: its slot is taken if one of them filled it. -/
theorem reply_after (ht : b.table = some t) {cs : List Command} (hp : ∀ c ∈ cs, c.slot?.isSome)
    (hc : c.slot? = some slot) :
    (b.after cs).reply c = b.pushAnswer t c slot
      (t.has slot || cs.any fun c => c.slot? == some slot && b.fills c) := by
  obtain ⟨t', ht', hb, hn, hh⟩ := pushed_after ht hp
  rw [reply_push ht' hc, pushAnswer, pushAnswer, refusal?_congr hb]
  cases b.refusal? c with
  | some e => rfl
  | none =>
    simp only [OpenTable.verdict, hn]
    by_cases hs : t.slotCount ≤ slot
    · rw [if_pos hs, if_pos hs]
    · rw [if_neg hs, if_neg hs, hh slot (UInt16.not_le.mp hs)]

theorem replies_append (cs : List Command) (c : Command) :
    b.replies (cs ++ [c]) = b.replies cs ++ [(b.after cs).reply c] := by
  induction cs generalizing b with
  | nil => rfl
  | cons c' cs ih => rw [List.cons_append, replies, ih, replies, List.cons_append]; rfl

/-- No push that is accepted without filling its slot is followed by another into that slot, unless
the offset of the other is out of place. -/
def BlanksLast (b : Builder) (cs : List Command) : Prop :=
  ∀ before c between c' rest, cs = before ++ c :: (between ++ c' :: rest) → c.slot? = c'.slot? →
    (b.after before).reply c = .ok .done → c.cell? = none → b.refusal? c' ≠ none

theorem BlanksLast.init {cs rest : List Command} (h : b.BlanksLast (cs ++ rest)) :
    b.BlanksLast cs := by
  rintro before c between c' rest' rfl
  exact h before c between c' (rest' ++ rest) (by simp)

/-- A push into a free slot has filled it, if one more push into the slot may follow. -/
theorem any_fills_of_blanksLast (ht : b.table = some t) {cs : List Command}
    (hp : ∀ c ∈ cs, c.slot?.isSome) (hb : b.BlanksLast (cs ++ [c])) (hc : c.slot? = some slot)
    (hr : b.refusal? c = none) (hs : slot < t.slotCount) (hfree : t.has slot = false)
    {earlier : Command} (hm : earlier ∈ cs) (he : earlier.slot? = some slot)
    (hre : b.refusal? earlier = none) :
    (cs.any fun c => c.slot? == some slot && b.fills c) = true := by
  by_contra hn
  obtain ⟨before, between, rfl⟩ := List.append_of_mem hm
  have hnone : ∀ c' ∈ before ++ earlier :: between, c'.slot? = some slot → b.fills c' = false := by
    intro c' hm' hs'
    by_contra hf
    exact hn (List.any_eq_true.mpr ⟨c', hm', by simp [hs', hf]⟩)
  -- Nothing filled the slot in front of the earlier push, which is therefore accepted.
  have hany : (before.any fun c => c.slot? == some slot && b.fills c) = false := by
    simpa using fun c' hm' => hnone c' (by simp [hm'])
  have hok : (b.after before).reply earlier = .ok .done := by
    rw [reply_after ht (fun c' hm' => hp c' (by simp [hm'])) he, pushAnswer, hre, hany, hfree]
    exact if_neg (UInt16.not_le.mpr hs)
  have hblank : earlier.cell? = none := by
    have hf := hnone earlier (by simp) he
    rwa [fills, hre, Option.isNone_none, Bool.true_and, Option.isSome_eq_false_iff,
      Option.isNone_iff_eq_none] at hf
  exact hb before earlier between c [] (by simp) (he.trans hc.symm) hok hblank hr

/-- If blank slots are not pushed into again, the first push into a slot takes it. -/
theorem reply_after_of_blanksLast (ht : b.table = some t) {cs : List Command}
    (hp : ∀ c ∈ cs, c.slot?.isSome) (hb : b.BlanksLast (cs ++ [c])) (hc : c.slot? = some slot) :
    (b.after cs).reply c = b.pushAnswer t c slot
      (t.has slot || cs.any fun c => c.slot? == some slot && (b.refusal? c).isNone) := by
  rw [reply_after ht hp hc, pushAnswer, pushAnswer]
  cases hr : b.refusal? c with
  | some e => rfl
  | none =>
    by_cases hs : t.slotCount ≤ slot
    · simp only [OpenTable.verdict, if_pos hs]
    · refine congrArg (t.verdict slot) ?_
      cases hfree : t.has slot with
      | true => rfl
      | false =>
        rw [Bool.false_or, Bool.false_or, Bool.eq_iff_iff]
        constructor
        · intro hf
          obtain ⟨c', hm, hc'⟩ := List.any_eq_true.mp hf
          rw [fills, ← Bool.and_assoc, Bool.and_eq_true] at hc'
          exact List.any_eq_true.mpr ⟨c', hm, hc'.1⟩
        · intro hf
          obtain ⟨c', hm, hc'⟩ := List.any_eq_true.mp hf
          rw [Bool.and_eq_true, beq_iff_eq, Option.isNone_iff_eq_none] at hc'
          exact any_fills_of_blanksLast ht hp hb hc hr (UInt16.not_le.mp hs) hfree hm hc'.1 hc'.2

theorem pushAnswer_eq_done {taken : Bool} :
    b.pushAnswer t c slot taken = .ok .done ↔
      b.refusal? c = none ∧ slot < t.slotCount ∧ taken = false := by
  rw [pushAnswer, OpenTable.verdict, ← UInt16.not_le]
  cases b.refusal? c with
  | some e => simp
  | none => by_cases hs : t.slotCount ≤ slot <;> cases taken <;> simp [hs]

/-- Pushes that agree in their slots and in the offsets that are out of place get the same
answers, whatever values they push. -/
theorem replies_congr (ht : b.table = some t) {cs cs' : List Command}
    (hp : ∀ c ∈ cs, c.slot?.isSome) (hb : b.BlanksLast cs) (hb' : b.BlanksLast cs')
    (h : cs'.map (fun c => (c.slot?, b.refusal? c)) = cs.map fun c => (c.slot?, b.refusal? c)) :
    b.replies cs' = b.replies cs := by
  induction cs using List.reverseRecOn generalizing cs' with
  | nil => rw [List.map_eq_nil_iff.mp h]
  | append_singleton cs c ih =>
    rw [List.map_append] at h
    obtain ⟨cs', last, rfl, hcs, hlast⟩ := List.map_eq_append_iff.mp h
    obtain ⟨c', rfl, hc'⟩ := List.map_eq_singleton_iff.mp hlast
    obtain ⟨hslot, hrefusal⟩ := Prod.mk.inj hc'
    obtain ⟨slot, hc⟩ := Option.isSome_iff_exists.mp (hp c (by simp))
    have hinit : ∀ c ∈ cs, c.slot?.isSome := fun d hd => hp d (by simp [hd])
    have hinit' : ∀ c ∈ cs', c.slot?.isSome := by
      intro d hd
      obtain ⟨d', hd', he⟩ := List.mem_map.mp (hcs ▸ List.mem_map_of_mem hd)
      rw [← (Prod.mk.inj he).1]
      exact hinit d' hd'
    have hany : ∀ ds : List Command,
        (ds.any fun c => c.slot? == some slot && (b.refusal? c).isNone) =
          (ds.map fun c => (c.slot?, b.refusal? c)).any
            fun made => made.1 == some slot && made.2.isNone := by
      simp [List.any_map, Function.comp_def]
    rw [replies_append, replies_append, ih hinit hb.init hb'.init hcs,
      reply_after_of_blanksLast ht hinit hb hc,
      reply_after_of_blanksLast ht hinit' hb' (hslot.trans hc), hany, hany, hcs, pushAnswer,
      pushAnswer, hrefusal]

/-- All of a list of pushes are accepted if no two are into one slot, and no slot is missing or
taken. -/
theorem replies_done_iff (ht : b.table = some t) {cs : List Command}
    (hp : ∀ c ∈ cs, c.slot?.isSome) (hb : b.BlanksLast cs) :
    (∀ r ∈ b.replies cs, r = .ok .done) ↔
      (∀ c ∈ cs, b.refusal? c = none) ∧ (cs.filterMap Command.slot?).Nodup ∧
        ∀ slot ∈ cs.filterMap Command.slot?, slot < t.slotCount ∧ t.has slot = false := by
  induction cs using List.reverseRecOn with
  | nil => simp [replies]
  | append_singleton cs c ih =>
    have hinit : ∀ c ∈ cs, c.slot?.isSome := fun d hd => hp d (by simp [hd])
    obtain ⟨slot, hc⟩ := Option.isSome_iff_exists.mp (hp c (by simp))
    -- Behind accepted pushes, the slot is taken if one of them was into it.
    have hany : (∀ c ∈ cs, b.refusal? c = none) →
        ((cs.any fun c => c.slot? == some slot && (b.refusal? c).isNone) = false ↔
          slot ∉ cs.filterMap Command.slot?) := by
      intro hr
      rw [Bool.eq_false_iff, Ne, List.any_eq_true, List.mem_filterMap]
      refine not_congr (exists_congr fun d => and_congr_right fun hd => ?_)
      rw [hr d hd, Option.isNone_none, Bool.and_true, beq_iff_eq]
    have hslots : (cs ++ [c]).filterMap Command.slot? = cs.filterMap Command.slot? ++ [slot] := by
      rw [List.filterMap_append, List.filterMap_cons_some hc, List.filterMap_nil]
    rw [replies_append, List.forall_mem_append, List.forall_mem_singleton, ih hinit hb.init,
      reply_after_of_blanksLast ht hinit hb hc, pushAnswer_eq_done, Bool.or_eq_false_iff, hslots,
      List.nodup_append_comm, List.singleton_append, List.nodup_cons, List.forall_mem_append,
      List.forall_mem_append, List.forall_mem_singleton, List.forall_mem_singleton]
    constructor
    · rintro ⟨⟨hr, hd, hs⟩, hrc, hlt, hfree, hn⟩
      exact ⟨⟨hr, hrc⟩, ⟨(hany hr).mp hn, hd⟩, hs, hlt, hfree⟩
    · rintro ⟨⟨hr, hrc⟩, ⟨hn, hd⟩, hs, hlt, hfree⟩
      exact ⟨⟨hr, hd, hs⟩, hrc, hlt, hfree, (hany hr).mpr hn⟩

/-- A push that comes behind an accepted one into its slot finds the slot taken. -/
theorem reply_of_earlier (ht : b.table = some t) {before between : List Command}
    {earlier : Command} (hp : ∀ c ∈ before ++ earlier :: between, c.slot?.isSome)
    (hb : b.BlanksLast (before ++ earlier :: between ++ [c])) (he : earlier.slot? = some slot)
    (hc : c.slot? = some slot) (hok : (b.after before).reply earlier = .ok .done) :
    (b.after (before ++ earlier :: between)).reply c =
      .error ((b.refusal? c).getD (.duplicateSlot slot)) := by
  have hbefore : ∀ c ∈ before, c.slot?.isSome := fun c' hm => hp c' (by simp [hm])
  rw [reply_after ht hbefore he, pushAnswer_eq_done] at hok
  rw [reply_after_of_blanksLast ht hp hb hc, pushAnswer]
  cases hr : b.refusal? c with
  | some e => rfl
  | none =>
    have htaken : (t.has slot || (before ++ earlier :: between).any
        fun c => c.slot? == some slot && (b.refusal? c).isNone) = true := by
      simp [he, hok.1]
    simp only [OpenTable.verdict, htaken, if_neg (UInt16.not_le.mpr hok.2.1)]
    rfl

theorem blanksLast_of_pairwise {cs : List Command}
    (h : cs.Pairwise fun c c' => c.slot? = c'.slot? → c.cell? ≠ none) : b.BlanksLast cs := by
  rintro before c between c' rest rfl hs - hblank
  rw [List.pairwise_append, List.pairwise_cons] at h
  exact absurd hblank (h.2.1.1 c' (by simp) hs)

end Builder

/-- Pushes into an open table, in any order and of any values. Whatever they are, the answer to
each is known from its slot, its offset and the pushes in front of it that filled their slots. If
blank slots are not pushed into again, a slot takes one push and refuses each that follows as a
duplicate; the values do not matter to which pushes are accepted, and all of them are if their
slots are in the table, free and different. -/
theorem slots_taken_once {b : Builder} {t : OpenTable} (ht : b.table = some t) {cs : List Command}
    (hp : ∀ c ∈ cs, c.slot?.isSome) :
    (∀ before c after slot, cs = before ++ c :: after → c.slot? = some slot →
      (b.after before).reply c = b.pushAnswer t c slot
        (t.has slot || before.any fun c => c.slot? == some slot && b.fills c)) ∧
    (b.BlanksLast cs →
      (∀ before c between c' rest slot, cs = before ++ c :: (between ++ c' :: rest) →
        c.slot? = some slot → c'.slot? = some slot → (b.after before).reply c = .ok .done →
          (b.after (before ++ c :: between)).reply c' =
            .error ((b.refusal? c').getD (.duplicateSlot slot))) ∧
      (∀ cs', b.BlanksLast cs' →
        cs'.map (fun c => (c.slot?, b.refusal? c)) = cs.map (fun c => (c.slot?, b.refusal? c)) →
          b.replies cs' = b.replies cs) ∧
      ((∀ r ∈ b.replies cs, r = .ok .done) ↔
        (∀ c ∈ cs, b.refusal? c = none) ∧ (cs.filterMap Command.slot?).Nodup ∧
          ∀ slot ∈ cs.filterMap Command.slot?, slot < t.slotCount ∧ t.has slot = false)) := by
  constructor
  · rintro before c after slot rfl hc
    exact Builder.reply_after ht (fun c' hm => hp c' (by simp [hm])) hc
  · intro hb
    refine ⟨?_, ?_, Builder.replies_done_iff ht hp hb⟩
    · rintro before c between c' rest slot rfl he hc hok
      have hsplit : before ++ c :: (between ++ c' :: rest) =
          before ++ c :: between ++ [c'] ++ rest := by simp
      rw [hsplit] at hp hb
      exact Builder.reply_of_earlier ht (fun d hd => hp d (by simp at hd ⊢; tauto)) hb.init he hc hok
    · intro cs' hb' h
      exact Builder.replies_congr ht hp hb hb' h

/-- Pushes into a table behind a text: a value, the text, an offset beyond the bytes, the value that
readers fall back to, into a slot that is taken and into one that is not. -/
def samplePushes : List Command :=
  [.push 0 (7 : UInt8) 0, .pushOffset 1 ⟨4⟩, .pushOffset 0 ⟨90⟩, .push 0 (0 : UInt8) 0,
    .push 2 false false]

theorem slots_taken_once_sample :
    ∃ b t, b = Builder.new.after [.string "ab", .startTable 3] ∧ b.table = some t ∧
      (∀ c ∈ samplePushes, c.slot?.isSome) ∧ b.BlanksLast samplePushes ∧
      ∀ cs', b.BlanksLast cs' →
        cs'.map (fun c => (c.slot?, b.refusal? c)) =
            samplePushes.map (fun c => (c.slot?, b.refusal? c)) →
          b.replies cs' = [.ok .done, .ok .done, .error (.invalidOffset 90),
            .error (.duplicateSlot 0), .ok .done] := by
  have ht : (Builder.new.after [.string "ab", .startTable 3]).table = some ⟨3, #[]⟩ := by
    decide +kernel
  have hp : ∀ c ∈ samplePushes, c.slot?.isSome := by decide +kernel
  have hb : (Builder.new.after [.string "ab", .startTable 3]).BlanksLast samplePushes :=
    Builder.blanksLast_of_pairwise (by decide +kernel)
  refine ⟨_, _, rfl, ht, hp, hb, ?_⟩
  intro cs' hb' h
  rw [((slots_taken_once ht hp).2 hb).2.1 cs' hb' h]
  decide +kernel

/-- A slot that was pushed the value that readers fall back to takes another push; the other way
round, the second push is refused. -/
theorem blank_slot_pushed_again :
    Builder.new.replies [.startTable 1, .push 0 (0 : UInt8) 0, .push 0 (1 : UInt8) 0] =
        [.ok .done, .ok .done, .ok .done] ∧
      Builder.new.replies [.startTable 1, .push 0 (1 : UInt8) 0, .push 0 (0 : UInt8) 0] =
        [.ok .done, .ok .done, .error (.duplicateSlot 0)] := by
  decide +kernel

end RecordStore.Buffer

import RecordStore.Buffer.Edit
import RecordStore.Proofs.Outcome

/-! Changing a builder in place comes to the same as computing the builder that follows, failing
calls included. -/
namespace RecordStore.Buffer

namespace Edit

variable {α : Type} {b : Builder}

/-- A computed outcome as a change: an error leaves the builder as it is. -/
@[simp] def settle (b : Builder) :
    Except BuildError (α × Builder) → EStateM.Result BuildError Builder α
  | .ok (a, next) => .ok a next
  | .error e => .error e b

/-- An outcome that comes with the builder it leaves behind, as a change. -/
@[simp] def leave : Except BuildError α × Builder → EStateM.Result BuildError Builder α
  | (.ok a, next) => .ok a next
  | (.error e, next) => .error e next

@[simp] theorem run_throw (e : BuildError) : (throw e : Edit α).run b = .error e b := rfl

@[simp] theorem run_ofExcept (x : Except BuildError α) :
    (MonadExcept.ofExcept x : Edit α).run b = settle b (x.map (·, b)) := by
  cases x <;> rfl

@[simp] theorem run_append (bytes : ByteArray) :
    (append bytes).run b = .ok () { b with bytes := b.bytes ++ bytes } := rfl

theorem run_child (region : Region) (data : ByteArray) :
    (child region data).run b = settle b (b.child region data) := by
  rw [child, Builder.child]
  cases ht : b.table with
  | some t => simp [-bind_pure_comp, ht]
  | none =>
    by_cases hd : UInt32.size ≤ data.size
    · simp [-bind_pure_comp, ht, hd]
    · cases ho : Builder.offset? region b.bytes.size with
      | error e => simp [-bind_pure_comp, ht, hd, ho, Except.map]
      | ok offset => simp [-bind_pure_comp, ht, hd, ho, Except.map]

theorem run_startTable (slotCount : UInt32) :
    (startTable slotCount).run b = settle b ((b.startTable slotCount).map ((), ·)) := by
  rw [startTable, Builder.startTable]
  cases ht : b.table with
  | some t => simp [-bind_pure_comp, ht, Except.map]
  | none =>
    by_cases hm : maxSlots < slotCount.toNat
    · simp [-bind_pure_comp, ht, hm, Except.map]
    · simp [-bind_pure_comp, ht, hm, Except.map]

@[simp] theorem run_tableFor (slot : UInt16) :
    (tableFor slot).run b = settle b ((b.tableFor slot).map (·, b)) := by
  rw [tableFor, Builder.tableFor]
  cases ht : b.table with
  | none => simp [-bind_pure_comp, ht, Except.map]
  | some t =>
    cases hc : t.check slot with
    | error e => simp [-bind_pure_comp, ht, hc, Except.map]
    | ok _ => simp [-bind_pure_comp, ht, hc, Except.map]

theorem run_push [Scalar α] (slot : UInt16) (value default : α) :
    (push slot value default).run b = settle b ((b.push slot value default).map ((), ·)) := by
  rw [push, Builder.push]
  cases ht : b.tableFor slot with
  | error e => simp [-bind_pure_comp, ht, Except.map]
  | ok t =>
    by_cases hs : Scalar.same value default
    · simp [-bind_pure_comp, ht, hs, Except.map]
    · simp [-bind_pure_comp, ht, hs, Except.map]

theorem run_pushOffset (slot : UInt16) (offset : Offset) :
    (pushOffset slot offset).run b = settle b ((b.pushOffset slot offset).map ((), ·)) := by
  rw [pushOffset, Builder.pushOffset]
  by_cases ho : b.couldHold offset
  · cases ht : b.tableFor slot with
    | error e => simp [-bind_pure_comp, ho, ht, Except.map]
    | ok t => simp [-bind_pure_comp, ho, ht, Except.map]
  · simp [-bind_pure_comp, ho, Except.map]

@[simp] theorem run_forM_append (f : UInt16 → ByteArray) (xs : List UInt16) :
    (forM xs fun x => append (f x)).run b =
      .ok () { b with bytes := xs.foldl (fun bytes x => bytes ++ f x) b.bytes } := by
  induction xs generalizing b with
  | nil => rfl
  | cons x xs ih => simp [-bind_pure_comp, ih]

/-- The open table is gone even if it cannot be written. -/
theorem run_endTable : endTable.run b = leave b.endTable := by
  rw [endTable, Builder.endTable]
  cases ht : b.table with
  | none => simp [-bind_pure_comp, ht]
  | some t =>
    simp only [Builder.write]
    cases hbody : t.fields.foldlM (Builder.Body.add (b.bytes.size + t.directorySize))
        ⟨LittleEndian.bytes 4 t.directorySize, Array.replicate t.slotCount.toNat 0⟩ with
    | error e => simp [-bind_pure_comp, ht, hbody, Except.map]
    | ok body =>
      by_cases hs : UInt16.size ≤ body.bytes.size
      · simp [-bind_pure_comp, ht, hbody, hs, Except.map]
      · cases ho : Builder.offset? .buffer (b.bytes.size + t.directorySize) with
        | error e => simp [-bind_pure_comp, ht, hbody, hs, ho, Except.map]
        | ok offset =>
          simp [-bind_pure_comp, ht, hbody, hs, ho, Except.map, ← Array.foldl_toList]

theorem run_release : release.run b = leave b.release := by
  rw [release, Builder.release]
  cases hl : b.lastTable with
  | none => simp [-bind_pure_comp, hl]
  | some root => simp [-bind_pure_comp, hl, reset]

theorem run_finish : finish.run b = leave b.finish := by
  rw [finish, Builder.finish]
  cases ht : b.table with
  | none => simp [-bind_pure_comp, ht, run_release]
  | some t =>
    simp only [EStateM.run_bind, EStateM.run_get, ht, Option.isSome_some, if_true, run_endTable]
    rcases b.endTable with ⟨outcome, next⟩
    cases outcome with
    | error e => rfl
    | ok offset => exact run_release

end Edit

end RecordStore.Buffer

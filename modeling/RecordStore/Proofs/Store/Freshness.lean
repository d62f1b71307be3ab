import RecordStore.Proofs.Store.Holdings

/-! New ids are new for good: none was ever that of a row, not even of one that was removed. -/
namespace RecordStore

namespace MemoryEngine

/-- The call is a program that puts a row of an entity under an id, and whose changes are kept. -/
inductive Commits (m : MemoryEngine) (entityId : UInt32) (id : UInt64) : StorageCall → Prop
  | program {ε α : Type} {p : CursorProgram ε α} {e : ModelEntity} {a : α} {data : ByteArray}
    (sound : m.poisoned = false) (entity_eq : m.entity entityId = .ok e)
    (outcome : (p.run (.start e m.queries true (m.rows entityId))).1 = .ok (.ok a))
    (put : ⟨.put id data, .ok ()⟩ ∈ p.transcript (.start e m.queries true (m.rows entityId))) :
    Commits m entityId id (.withCursor entityId true p)

/-- One of the calls has put a row of an entity under an id for good. -/
def EverCommitted (m : MemoryEngine) (calls : List StorageCall) (entityId : UInt32)
    (id : UInt64) : Prop :=
  ∃ before call after, calls = before ++ call :: after ∧ (m.run before).Commits entityId id call

variable {m : MemoryEngine} {model : Model} {entityId : UInt32} {id : UInt64}

theorem Commits.le_lastId {call : StorageCall} (h : m.Commits entityId id call) :
    id ≤ ((m.after call).rows entityId).lastId := by
  cases h with
  | @program ε α p e a data sound entity_eq outcome put =>
    have hafter : (m.after (.withCursor entityId true p)) =
        (m.withCursor entityId true p).2 := rfl
    rw [hafter, withCursor_eq sound entity_eq (Prod.ext outcome rfl), if_pos rfl, settle,
      rows_setRows]
    exact Cursor.le_lastId_run p put

/-- The last id stays above the ids of all rows that were put, whatever has become of them. -/
theorem EverCommitted.le_lastId (hm : m.Numbered model) {calls : List StorageCall}
    (h : m.EverCommitted calls entityId id) : id ≤ ((m.run calls).rows entityId).lastId := by
  obtain ⟨before, call, after, rfl, hcommits⟩ := h
  have hrun : m.run (before ++ call :: after) = ((m.run before).after call).run after := by
    rw [run, List.foldl_append, List.foldl_cons]
    rfl
  -- Whatever follows the call takes no id back.
  have hleads := ((hm.run before).after call).leads_run after entityId
  rw [hrun]
  exact UInt64.le_trans hcommits.le_lastId hleads.lastId_le

end MemoryEngine

/-- Whatever was called on an engine that was opened, rows are under ids from one to the last, which
never falls. So no new id, in a program or for a record, is one that a row was ever put under. -/
theorem new_ids_are_fresh (model : Model) (calls : List StorageCall) (entityId : UInt32) :
    let m := (MemoryEngine.opened model).run calls
    (∀ id bytes, (m.rows entityId).entries[id]? = some bytes →
      id ≠ 0 ∧ id ≤ (m.rows entityId).lastId) ∧
    (∀ more, (m.rows entityId).lastId ≤ ((m.run more).rows entityId).lastId) ∧
    (∀ {ε α : Type} (p : CursorProgram ε α) (e : ModelEntity) (write : Bool) (id : UInt64),
      ⟨.idForPut 0, .ok id⟩ ∈ p.transcript (.start e m.queries write (m.rows entityId)) →
        ∀ old, (MemoryEngine.opened model).EverCommitted calls entityId old → id ≠ old) ∧
    ∀ (store : Store) (b : Binding) (r r' : Record b.types) (id : UInt64) (m' : MemoryEngine),
      b.entity.id = entityId → b.id r = 0 →
        Box.put MemoryEngine.storage ⟨store, b⟩ r m = ((.ok id, r'), m') →
          ∀ old, (MemoryEngine.opened model).EverCommitted calls entityId old → id ≠ old := by
  intro m
  have hnumbered := (MemoryEngine.numbered_opened model).run calls
  have hne {id : UInt64} (hlt : (m.rows entityId).lastId < id) (old : UInt64)
      (hold : (MemoryEngine.opened model).EverCommitted calls entityId old) : id ≠ old := by
    rintro rfl
    have hle := hold.le_lastId (MemoryEngine.numbered_opened model)
    exact UInt64.lt_irrefl _ (UInt64.lt_of_lt_of_le hlt hle)
  refine ⟨hnumbered.rows entityId, fun more => (hnumbered.leads_run more entityId).lastId_le,
    fun p e write id hid => hne (Cursor.lt_of_new_id hid), ?_⟩
  rintro store b r r' id m' rfl hzero hput
  obtain ⟨hid, -⟩ := Box.of_put_ok store hput
  rw [hzero] at hid
  refine hne ?_
  rw [UInt64.lt_iff_toNat_lt, toNat_of_nextId?_zero hid]
  exact Nat.lt_succ_self _

/-- Puts a row under the id five, and removes it. -/
def fleeting (entityId : UInt32) : List StorageCall :=
  let program (call : CursorCall) : CursorProgram Unit Unit := .call call fun _ => .done (.ok ())
  [.withCursor entityId true (program (.put 5 ⟨#[1]⟩)),
    .withCursor entityId true (program (.remove 5))]

theorem new_ids_are_fresh_note :
    ∃ (b : Binding) (model : Model) (r : Record b.types), Binding.ofEntity Schema.note = .ok b ∧
      (MemoryEngine.opened model).EverCommitted (fleeting b.entity.id) b.entity.id 5 ∧
      (Box.put MemoryEngine.storage ⟨⟨model, false⟩, b⟩ r
        ((MemoryEngine.opened model).run (fleeting b.entity.id))).1.1 = .ok 6 ∧
      (6 : UInt64) ≠ 5 := by
  obtain ⟨b, model, hb, -, -, hm, hcheck⟩ := Schema.exists_note_model
    (fun b model => b.types = Schema.faint.map Value.type ∧
      ∀ ht : Schema.faint.map Value.type = b.types, b.id ⟨Schema.faint, ht⟩ = 0 ∧
        (Box.put MemoryEngine.storage ⟨⟨model, false⟩, b⟩ ⟨Schema.faint, ht⟩
          ((MemoryEngine.opened model).run (fleeting b.entity.id))).1.1 = .ok 6)
    (by decide +kernel)
  obtain ⟨ht, hrun⟩ := of_decide_eq_true hcheck
  obtain ⟨hzero, hput⟩ := hrun ht.symm
  have hentity := MemoryEngine.entity_opened (hm.entity?_eq List.mem_cons_self)
  have hcommitted : (MemoryEngine.opened model).EverCommitted (fleeting b.entity.id)
      b.entity.id 5 :=
    ⟨[], _, _, rfl, .program rfl hentity rfl (.head _)⟩
  obtain ⟨-, -, -, h⟩ := new_ids_are_fresh model (fleeting b.entity.id) b.entity.id
  exact ⟨b, model, ⟨Schema.faint, ht.symm⟩, hb, hcommitted, hput,
    h _ b _ _ 6 _ rfl hzero (Prod.ext (Prod.ext hput rfl) rfl) 5 hcommitted⟩

end RecordStore

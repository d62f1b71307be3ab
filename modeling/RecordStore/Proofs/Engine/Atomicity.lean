import RecordStore.Engine.Memory
import RecordStore.Proofs.Engine.Effect

/-! Programs on a cursor take effect as a whole or not at all. -/
namespace RecordStore

/-- A call and what it answered. -/
structure Exchange where
  call : CursorCall
  answer : Except EngineError call.Reply

namespace Exchange

def succeeded (x : Exchange) : Bool :=
  match x.answer with
  | .ok _ => true
  | .error _ => false

end Exchange

namespace Rows

/-- The rows after calls in order, each with its effect if it succeeded. -/
def replay (e : ModelEntity) (queries : QueryTable) : Rows → List Exchange → Rows
  | r, [] => r
  | r, x :: rest => replay e queries (if x.succeeded then r.effect e queries x.call else r) rest

end Rows

namespace CursorProgram

variable {ε α : Type}

/-- The calls that a program makes on a cursor with their answers, up to its end or an overflow. -/
def transcript (c : Cursor) : CursorProgram ε α → List Exchange
  | done _ => []
  | call request next =>
    match c.step request with
    | (.ok reply, c) => ⟨request, .ok reply⟩ :: (next (.ok reply)).transcript c
    | (.error (.error e), c) => ⟨request, .error e⟩ :: (next (.error e)).transcript c
    | (.error (.overflow _), _) => []

end CursorProgram

namespace Cursor

/-- What calls with their answers have made of a cursor. -/
structure Reaches (c : Cursor) (xs : List Exchange) (c' : Cursor) : Prop where
  entity_eq : c'.entity = c.entity
  queries_eq : c'.queries = c.queries
  rows_eq : c'.rows = c.rows.replay c.entity c.queries xs
  restored_eq : c'.restored = c.restored
  refused : c.writable = false → ∀ x ∈ xs, x.call.mutates = true → x.succeeded = false

theorem reaches_self (c : Cursor) : c.Reaches [] c :=
  ⟨rfl, rfl, rfl, rfl, fun _ _ hx => nomatch hx⟩

namespace Reaches

variable {c c' : Cursor} {xs : List Exchange} {call : CursorCall}

theorem after_error (h : c.Reaches xs c') (e : EngineError) :
    c.Reaches (⟨call, .error e⟩ :: xs) c' := by
  refine ⟨h.entity_eq, h.queries_eq, h.rows_eq, h.restored_eq, ?_⟩
  intro hw x hx hm
  rcases List.mem_cons.mp hx with rfl | hx
  · rfl
  · exact h.refused hw x hx hm

theorem after_ok {next : Cursor} (hs : c.Succeeds call next) (h : next.Reaches xs c')
    (reply : call.Reply) : c.Reaches (⟨call, .ok reply⟩ :: xs) c' := by
  refine ⟨h.entity_eq.trans hs.entity_eq, h.queries_eq.trans hs.queries_eq, ?_,
    h.restored_eq.trans hs.restored_eq, ?_⟩
  · rw [h.rows_eq, hs.rows_eq, hs.entity_eq, hs.queries_eq]
    rfl
  · intro hw x hx hm
    rcases List.mem_cons.mp hx with rfl | hx
    · rw [hs.writable hm] at hw
      cases hw
    · exact h.refused (hs.writable_eq.trans hw) x hx hm

end Reaches

/-- A program leaves the cursor as its calls have made it. -/
theorem reaches_run {ε α : Type} (p : CursorProgram ε α) (c : Cursor) :
    c.Reaches (p.transcript c) (p.run c).2 := by
  induction p generalizing c with
  | done result => exact c.reaches_self
  | call request next ih =>
    rw [CursorProgram.transcript, CursorProgram.run]
    rcases c.comes_step request with ⟨halt, hstep⟩ | ⟨reply, c', hstep, hs⟩
    · rw [hstep]
      cases halt with
      | error e => exact (ih _ c).after_error e
      | overflow o => exact c.reaches_self
    · rw [hstep]
      exact .after_ok hs (ih _ c') reply

end Cursor

namespace MemoryEngine

@[simp] theorem rows_setRows (m : MemoryEngine) (id : UInt32) (r : Rows) :
    (m.setRows id r).rows id = r := by
  simp [rows, setRows]

theorem rows_setRows_of_ne {m : MemoryEngine} {id other : UInt32} {r : Rows} (h : other ≠ id) :
    (m.setRows id r).rows other = m.rows other := by
  have h' : ¬ id = other := fun e => h e.symm
  simp [rows, setRows, Std.ExtTreeMap.getD_insert, h']

/-- What a program makes of an engine that no overflow has hit. -/
theorem withCursor_eq {ε α : Type} {m : MemoryEngine} {id : UInt32} {e : ModelEntity}
    {write : Bool} {p : CursorProgram ε α} {outcome : Except Overflow (Except ε α)} {c : Cursor}
    (hp : m.poisoned = false) (he : m.entity id = .ok e)
    (hrun : p.run (.start e m.queries write (m.rows id)) = (outcome, c)) :
    m.withCursor id write p =
      if write then m.settle id (outcome, c) else (outcome.mapError .overflow, m) := by
  have hd : m.demandSound = .ok () := by rw [demandSound, if_neg (by simp [hp])]
  rw [withCursor, hd, ok_bind, he]
  simp only [hrun]

/-- An engine that an overflow has hit runs no program. In any other state a program that comes to
its end has its calls applied in order if its outcome is no error, and is undone if it is one; for
reading only, no call that changes rows succeeds. Other entities and the queries never change. -/
theorem withCursor_atomic {ε α : Type} {m : MemoryEngine} {id : UInt32} {e : ModelEntity}
    (he : m.entity id = .ok e) (write : Bool) (p : CursorProgram ε α) :
    (m.poisoned = true → m.withCursor id write p = (.error (.error .poisoned), m)) ∧
      (m.poisoned = false → ∀ result,
        (p.run (.start e m.queries write (m.rows id))).1 = .ok result →
          ∃ after, m.withCursor id write p = (.ok result, after) ∧
            (write = true → after.rows id =
              match result with
              | .ok _ => (m.rows id).replay e m.queries
                  (p.transcript (.start e m.queries write (m.rows id)))
              | .error _ => m.rows id) ∧
            (write = false → after.rows id = m.rows id ∧
              ∀ x ∈ p.transcript (.start e m.queries write (m.rows id)),
                x.call.mutates = true → x.succeeded = false) ∧
            (∀ other, other ≠ id → after.rows other = m.rows other) ∧
            after.queries = m.queries ∧ after.model = m.model) := by
  constructor
  · intro hp
    have hd : m.demandSound = .error .poisoned := by rw [demandSound, if_pos hp]
    rw [withCursor, hd, error_bind]
  · intro hp result hr
    have hreach := Cursor.reaches_run p (.start e m.queries write (m.rows id))
    cases hrun : p.run (.start e m.queries write (m.rows id)) with
    | mk outcome c =>
      rw [hrun] at hr hreach
      cases hr
      rw [withCursor_eq hp he hrun]
      cases write with
      | false =>
        exact ⟨m, rfl, nofun, fun _ => ⟨rfl, hreach.refused rfl⟩, fun _ _ => rfl, rfl, rfl⟩
      | true =>
        cases result with
        | ok a =>
          refine ⟨_, rfl, fun _ => ?_, nofun, fun other ho => rows_setRows_of_ne ho, rfl, rfl⟩
          rw [rows_setRows]
          exact hreach.rows_eq
        | error x =>
          refine ⟨_, rfl, fun _ => ?_, nofun, fun other ho => rows_setRows_of_ne ho, rfl, rfl⟩
          rw [rows_setRows]
          exact hreach.restored_eq.trans (Cursor.restored_start ..)

/-- An opened engine without rows. -/
def fresh : MemoryEngine := ⟨some ⟨#[⟨1, 10, "Plain", #[], none⟩], none⟩, ∅, .empty, false⟩

/-- A program that changes rows and gives up. -/
def abandoned : CursorProgram Unit Unit :=
  .call (.put 5 ⟨#[1]⟩) fun _ => .call (.idForPut 0) fun _ => .call .removeAll fun _ =>
    .done (.error ())

theorem withCursor_atomic_abandoned :
    ∃ after, fresh.withCursor 1 true abandoned = (.ok (.error ()), after) ∧
      after.rows 1 = fresh.rows 1 := by
  have he : fresh.entity 1 = .ok ⟨1, 10, "Plain", #[], none⟩ := rfl
  obtain ⟨after, hw, hrows, -⟩ := (withCursor_atomic he true abandoned).2 rfl (.error ()) rfl
  exact ⟨after, hw, hrows rfl⟩

end MemoryEngine

end RecordStore

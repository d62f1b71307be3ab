import RecordStore.Proofs.Engine.Atomicity

/-! What every row of an engine satisfies, if everything that programs put does. -/
namespace RecordStore

namespace Rows

def All (P : UInt64 → ByteArray → Prop) (r : Rows) : Prop :=
  ∀ id bytes, r.entries[id]? = some bytes → P id bytes

variable {P : UInt64 → ByteArray → Prop} {r : Rows}

theorem all_empty : empty.All P := by
  intro id bytes h
  simp [empty] at h

theorem All.insert (h : r.All P) {id : UInt64} {bytes : ByteArray} (hp : P id bytes)
    (lastId : UInt64) : All P ⟨r.entries.insert id bytes, lastId⟩ := by
  intro k other hk
  rcases Keyed.of_getElem?_insert hk with ⟨rfl, rfl⟩ | hold
  · exact hp
  · exact h k other hold

/-- A call adds no row but the one that it puts. -/
theorem All.effect (h : r.All P) {e : ModelEntity} {queries : QueryTable} {call : CursorCall}
    (hput : ∀ id data, call = .put id data → P id data) : (r.effect e queries call).All P := by
  intro k bytes hk
  cases call with
  | put id data => exact h.insert (hput id data rfl) _ k bytes hk
  | remove id =>
    rw [effect_remove] at hk
    exact h k bytes (Keyed.of_getElem?_erase hk)
  | removeAll => simp [effect_removeAll] at hk
  | queryRemove handle =>
    cases hq : queries.compiled handle with
    | error x =>
      rw [effect_queryRemove_error r hq] at hk
      exact h k bytes hk
    | ok q =>
      rw [effect_queryRemove r hq, Std.ExtTreeMap.getElem?_filter'] at hk
      exact h k bytes (Option.filter_eq_some_iff.mp hk).1
  | _ => exact h k bytes hk

end Rows

namespace CursorProgram

variable {ε α : Type} {P : UInt64 → ByteArray → Prop}

/-- Whatever the answers of its calls are, a program puts only what satisfies `P`. -/
def Writes (P : UInt64 → ByteArray → Prop) : CursorProgram ε α → Prop
  | done _ => True
  | call request next =>
    (∀ id data, request = .put id data → id ≠ 0 → P id data) ∧ ∀ reply, (next reply).Writes P

end CursorProgram

namespace Cursor

variable {P : UInt64 → ByteArray → Prop}

theorem all_step {c : Cursor} (h : c.rows.All P) {call : CursorCall}
    (hput : ∀ id data, call = .put id data → id ≠ 0 → P id data) :
    (c.step call).2.rows.All P := by
  rcases c.comes_step call with ⟨e, hs⟩ | ⟨reply, c', hs, hsucc⟩
  · rw [hs]
    exact h
  · rw [hs]
    simp only [hsucc.rows_eq]
    refine h.effect ?_
    rintro id data rfl
    refine hput id data rfl ?_
    rintro rfl
    -- The id zero is refused before anything else is looked at.
    have hrefused : c.step (.put 0 data) = (.error (.error .idZero), c) := rfl
    rw [hrefused] at hs
    cases hs

theorem all_run {ε α : Type} {p : CursorProgram ε α} (hp : p.Writes P) {c : Cursor}
    (h : c.rows.All P) : (p.run c).2.rows.All P := by
  induction p generalizing c with
  | done result => exact h
  | call request next ih =>
    have hs := all_step h hp.1
    rw [CursorProgram.run]
    cases hstep : c.step request with
    | mk reply c' =>
      rw [hstep] at hs
      cases reply with
      | ok reply => exact ih _ (hp.2 _) hs
      | error halt =>
        cases halt with
        | error e => exact ih _ (hp.2 _) hs
        | overflow o => exact hs

end Cursor

namespace MemoryEngine

variable {ε α : Type} {m : MemoryEngine} {id : UInt32}

/-- All that a program can change of an engine are the rows of its entity, which become what its
calls made of them, and whether an overflow has hit. -/
theorem withCursor_cases (m : MemoryEngine) (id : UInt32) (write : Bool)
    (p : CursorProgram ε α) :
    (m.withCursor id write p).2 = m ∨ ∃ e rows poisoned,
      (m.withCursor id write p).2 = { m.setRows id rows with poisoned := poisoned } ∧
        (rows = m.rows id ∨ rows = (p.run (.start e m.queries true (m.rows id))).2.rows) := by
  rw [withCursor]
  cases hd : m.demandSound >>= fun _ => m.entity id with
  | error e => exact .inl rfl
  | ok e =>
    cases write with
    | false => exact .inl rfl
    | true =>
      right
      have hreach := Cursor.reaches_run p (.start e m.queries true (m.rows id))
      cases hrun : p.run (.start e m.queries true (m.rows id)) with
      | mk outcome c =>
        rw [hrun] at hreach
        refine ⟨e, ?_⟩
        simp only [hrun, if_true]
        cases outcome with
        | error o => exact ⟨c.rows, true, rfl, .inr rfl⟩
        | ok result =>
          cases result with
          | ok a => exact ⟨c.rows, m.poisoned, rfl, .inr rfl⟩
          | error x =>
            exact ⟨_, m.poisoned, rfl,
              .inl (hreach.restored_eq.trans (Cursor.restored_start ..))⟩

theorem model_withCursor (m : MemoryEngine) (id : UInt32) (write : Bool)
    (p : CursorProgram ε α) : (m.withCursor id write p).2.model = m.model := by
  rcases m.withCursor_cases id write p with h | ⟨e, rows, poisoned, h, -⟩
  · rw [h]
  · rw [h]
    rfl

theorem queries_withCursor (m : MemoryEngine) (id : UInt32) (write : Bool)
    (p : CursorProgram ε α) : (m.withCursor id write p).2.queries = m.queries := by
  rcases m.withCursor_cases id write p with h | ⟨e, rows, poisoned, h, -⟩
  · rw [h]
  · rw [h]
    rfl

/-- Rows keep what programs keep to when they put. -/
theorem all_withCursor {P : UInt32 → UInt64 → ByteArray → Prop}
    (h : ∀ other, (m.rows other).All (P other)) {p : CursorProgram ε α} (hp : p.Writes (P id))
    (write : Bool) (other : UInt32) :
    ((m.withCursor id write p).2.rows other).All (P other) := by
  rcases m.withCursor_cases id write p with hw | ⟨e, rows, poisoned, hw, hrows⟩
  · rw [hw]
    exact h other
  · rw [hw]
    have hall : rows.All (P id) := by
      rcases hrows with rfl | rfl
      · exact h id
      · exact Cursor.all_run hp (h id)
    by_cases ho : other = id
    · subst ho
      have hset := m.rows_setRows other rows
      exact fun k bytes hk => hall k bytes (hset ▸ hk)
    · have hset := rows_setRows_of_ne (m := m) (r := rows) ho
      exact fun k bytes hk => h other k bytes (hset ▸ hk)

end MemoryEngine

end RecordStore

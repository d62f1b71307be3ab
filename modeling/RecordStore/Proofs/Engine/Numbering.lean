import Mathlib.Data.List.Nodup
import RecordStore.Proofs.Engine.History

/-! The ids that rows are put under: which one a cursor gives, that the highest one never falls, and
that every row is under an id that was given. -/
namespace RecordStore

/-- The id under which a record is put if `last` is the highest one given so far: the one that it
asks for, or a new one, as long as there is one, if it asks for zero. -/
def nextId? (last asked : UInt64) : Option UInt64 :=
  if asked = 0 then if last = maxId then none else some (last + 1) else some asked

section

variable {last asked id : UInt64}

theorem nextId?_eq_none : nextId? last asked = none ↔ asked = 0 ∧ last = maxId := by
  rw [nextId?]
  by_cases h0 : asked = 0
  · by_cases hm : last = maxId <;> simp [h0, hm]
  · simp [h0]

/-- A new id is the one behind the last. -/
theorem toNat_of_nextId?_zero (h : nextId? last 0 = some id) : id.toNat = last.toNat + 1 := by
  obtain ⟨hm, hid⟩ := Option.ite_none_left_eq_some.mp (h : (if last = maxId then none else _) = _)
  rw [← Option.some.inj hid, toNat_add_one hm]

theorem eq_of_nextId? (h0 : asked ≠ 0) (h : nextId? last asked = some id) : id = asked := by
  rw [nextId?, if_neg h0] at h
  exact (Option.some.inj h).symm

theorem ne_zero_of_nextId? (h : nextId? last asked = some id) : id ≠ 0 := by
  by_cases h0 : asked = 0
  · subst h0
    rintro rfl
    have hnat := toNat_of_nextId?_zero h
    simp at hnat
  · rw [eq_of_nextId? h0 h]
    exact h0

theorem max_max_right (a b : UInt64) : max (max a b) b = max a b := by
  rw [← UInt64.toNat_inj, UInt64.toNat_max, UInt64.toNat_max]
  omega

theorem left_le_max (a b : UInt64) : a ≤ max a b := by
  rw [UInt64.le_iff_toNat_le, UInt64.toNat_max]
  omega

theorem right_le_max (a b : UInt64) : b ≤ max a b := by
  rw [UInt64.le_iff_toNat_le, UInt64.toNat_max]
  omega

end

/-- Whether a call can give an id. -/
def CursorCall.givesId : CursorCall → Bool
  | idForPut _ | put .. => true
  | _ => false

namespace Rows

/-- The rows after one was put. -/
def insert (r : Rows) (id : UInt64) (data : ByteArray) : Rows :=
  ⟨r.entries.insert id data, max r.lastId id⟩

/-- Every row is under an id that was given. -/
def Numbered (r : Rows) : Prop := r.All fun id _ => id ≠ 0 ∧ id ≤ r.lastId

/-- Rows come of others without an id being taken back. -/
structure Leads (r r' : Rows) : Prop where
  lastId_le : r.lastId ≤ r'.lastId
  numbered : r.Numbered → r'.Numbered

variable {r r' r'' : Rows}

theorem numbered_empty : empty.Numbered := all_empty

theorem Leads.refl (r : Rows) : r.Leads r := ⟨UInt64.le_refl _, id⟩

theorem Leads.trans (h : r.Leads r') (h' : r'.Leads r'') : r.Leads r'' :=
  ⟨UInt64.le_trans h.lastId_le h'.lastId_le, h'.numbered ∘ h.numbered⟩

/-- Rows stay under given ids when the last one rises. -/
theorem leads_setLastId (r : Rows) (id : UInt64) :
    r.Leads { r with lastId := max r.lastId id } := by
  refine ⟨left_le_max _ _, fun h => ?_⟩
  intro k bytes hk
  obtain ⟨hne, hle⟩ := h k bytes hk
  exact ⟨hne, UInt64.le_trans hle (left_le_max _ _)⟩

theorem leads_insert (r : Rows) {id : UInt64} (hid : id ≠ 0) (data : ByteArray) :
    r.Leads (r.insert id data) := by
  refine ⟨left_le_max _ _, fun h => ?_⟩
  intro k bytes hk
  rcases Keyed.of_getElem?_insert hk with ⟨rfl, -⟩ | hold
  · exact ⟨hid, right_le_max _ _⟩
  · exact (leads_setLastId r id).numbered h k bytes hold

variable {e : ModelEntity} {queries : QueryTable} {call : CursorCall}

theorem lastId_effect (hc : call.givesId = false) :
    (r.effect e queries call).lastId = r.lastId := by
  cases call with
  | idForPut id => cases hc
  | put id data => cases hc
  | queryRemove handle =>
    cases hq : queries.compiled handle with
    | error x => rw [effect_queryRemove_error r hq]
    | ok q => rw [effect_queryRemove r hq]
  | _ => rfl

/-- A call that gives no id adds no row. -/
theorem leads_effect (hc : call.givesId = false) : r.Leads (r.effect e queries call) := by
  have hlast : (r.effect e queries call).lastId = r.lastId := lastId_effect hc
  refine ⟨hlast ▸ UInt64.le_refl _, fun h => ?_⟩
  rw [Numbered, hlast]
  refine h.effect ?_
  rintro id data rfl
  cases hc

end Rows

namespace Cursor

variable {c : Cursor} {asked id : UInt64}

theorem step_idForPut (hw : c.writable = true) (h : nextId? c.rows.lastId asked = some id) :
    c.step (.idForPut asked) =
      (.ok id, { c with rows := { c.rows with lastId := max c.rows.lastId id } }) := by
  have hstep : c.step (.idForPut asked) = c.idForPut asked := rfl
  rw [hstep, idForPut, demandWritable_ok hw]
  by_cases h0 : asked = 0
  · subst h0
    have hmax : max c.rows.lastId id = id := by
      rw [← UInt64.toNat_inj, UInt64.toNat_max, toNat_of_nextId?_zero h]
      omega
    obtain ⟨hm, hid⟩ := Option.ite_none_left_eq_some.mp
      (h : (if c.rows.lastId = maxId then none else _) = _)
    rw [hmax, ← Option.some.inj hid]
    simp only [if_true, if_neg hm]
  · rw [eq_of_nextId? h0 h]
    simp only [if_neg h0]

/-- A cursor overflows where there is no new id. -/
theorem step_idForPut_exhausted (hw : c.writable = true) (h : nextId? c.rows.lastId asked = none) :
    c.step (.idForPut asked) = (.error (.overflow .addition), c) := by
  obtain ⟨h0, hm⟩ := nextId?_eq_none.mp h
  have hstep : c.step (.idForPut asked) = c.idForPut asked := rfl
  rw [hstep, idForPut, demandWritable_ok hw]
  simp only [if_pos h0, if_pos hm]

theorem step_put (hw : c.writable = true) (hid : id ≠ 0) (data : ByteArray) :
    c.step (.put id data) =
      (.ok (), { c with
        rows := c.rows.insert id data
        log := c.log.record id c.rows.entries[id]? }) := by
  have hstep : c.step (.put id data) = c.put id data := rfl
  rw [hstep, put, demandWritable_ok hw, if_neg hid]
  rfl

/-- A put that succeeds has given its id. -/
theorem le_lastId_of_put {data : ByteArray} {c' : Cursor} {reply : Unit}
    (h : c.step (.put id data) = (.ok reply, c')) : id ≤ c'.rows.lastId := by
  rcases c.comes_step (.put id data) with ⟨e, hs⟩ | ⟨_, _, hs, hsucc⟩
  · rw [h] at hs
    cases hs
  · rw [h] at hs
    cases hs
    rw [hsucc.rows_eq]
    exact right_le_max _ _

/-- No call takes an id back. -/
theorem leads_step (c : Cursor) (call : CursorCall) : c.rows.Leads (c.step call).2.rows := by
  rcases c.comes_step call with ⟨e, hs⟩ | ⟨reply, c', hs, hsucc⟩
  · rw [hs]
    exact .refl _
  · cases call with
    | idForPut asked =>
      have hw := hsucc.writable rfl
      cases hn : nextId? c.rows.lastId asked with
      | none =>
        rw [step_idForPut_exhausted hw hn]
        exact .refl _
      | some id =>
        rw [step_idForPut hw hn]
        exact c.rows.leads_setLastId id
    | put id data =>
      have hid : id ≠ 0 := by
        rintro rfl
        -- The id zero is refused before anything else is looked at.
        have hrefused : c.step (.put 0 data) = (.error (.error .idZero), c) := rfl
        rw [hrefused] at hs
        cases hs
      rw [step_put (hsucc.writable rfl) hid]
      exact c.rows.leads_insert hid data
    | _ =>
      rw [hs]
      simp only [hsucc.rows_eq]
      exact Rows.leads_effect rfl

/-- No program takes an id back. -/
theorem leads_run {ε α : Type} (p : CursorProgram ε α) (c : Cursor) :
    c.rows.Leads (p.run c).2.rows := by
  -- The rows count as they are where an overflow ends the program, too.
  induction p generalizing c with
  | done result => exact .refl _
  | call request next ih =>
    have hs := c.leads_step request
    rw [CursorProgram.run]
    rcases hstep : c.step request with ⟨(e | o) | reply, c'⟩
    all_goals rw [hstep] at hs
    · exact hs.trans (ih _ c')
    · exact hs
    · exact hs.trans (ih _ c')

/-- Every id that a program has put a row under was given when it ends. -/
theorem le_lastId_run {ε α : Type} (p : CursorProgram ε α) {c : Cursor} {data : ByteArray}
    (h : ⟨.put id data, .ok ()⟩ ∈ p.transcript c) : id ≤ (p.run c).2.rows.lastId := by
  induction p generalizing c with
  | done result => cases h
  | call request next ih =>
    rw [CursorProgram.transcript] at h
    rw [CursorProgram.run]
    rcases hstep : c.step request with ⟨(e | o) | reply, c'⟩
    all_goals
      rw [hstep] at h
      simp only at h ⊢
    · rcases List.mem_cons.mp h with hfirst | hlater
      · cases hfirst
      · exact ih _ hlater
    · cases h
    · rcases List.mem_cons.mp h with hfirst | hlater
      · cases hfirst
        exact UInt64.le_trans (le_lastId_of_put hstep) (leads_run _ c').lastId_le
      · exact ih _ hlater

/-- A new id lies above the last one. -/
theorem lt_of_idForPut_zero {c' : Cursor} (h : c.step (.idForPut 0) = (.ok id, c')) :
    c.rows.lastId < id := by
  rcases c.comes_step (.idForPut 0) with ⟨e, hs⟩ | ⟨_, _, hs, hsucc⟩
  · rw [h] at hs
    cases hs
  · have hw := hsucc.writable rfl
    cases hid : nextId? c.rows.lastId 0 with
    | none =>
      rw [step_idForPut_exhausted hw hid] at h
      cases h
    | some next =>
      rw [step_idForPut hw hid] at h
      cases h
      rw [UInt64.lt_iff_toNat_lt, toNat_of_nextId?_zero hid]
      exact Nat.lt_succ_self _

/-- Every new id that a program is given lies above the last one that it has started with. -/
theorem lt_of_new_id {ε α : Type} {p : CursorProgram ε α} {c : Cursor}
    (h : ⟨.idForPut 0, .ok id⟩ ∈ p.transcript c) : c.rows.lastId < id := by
  induction p generalizing c with
  | done result => cases h
  | call request next ih =>
    have hle := (c.leads_step request).lastId_le
    rw [CursorProgram.transcript] at h
    rcases hstep : c.step request with ⟨(e | o) | reply, c'⟩
    all_goals rw [hstep] at h hle
    · rcases List.mem_cons.mp h with hfirst | hlater
      · cases hfirst
      · exact UInt64.lt_of_le_of_lt hle (ih _ hlater)
    · cases h
    · rcases List.mem_cons.mp h with hfirst | hlater
      · cases hfirst
        exact lt_of_idForPut_zero hstep
      · exact UInt64.lt_of_le_of_lt hle (ih _ hlater)

end Cursor

namespace MemoryEngine

variable {ε α : Type} {m m' : MemoryEngine} {id : UInt32}

theorem leads_withCursor (m : MemoryEngine) (id : UInt32) (write : Bool) (p : CursorProgram ε α)
    (other : UInt32) : (m.rows other).Leads ((m.withCursor id write p).2.rows other) := by
  rcases m.withCursor_cases id write p with hw | ⟨e, rows, poisoned, hw, hrows⟩
  · rw [hw]
    exact .refl _
  · have hset : (m.withCursor id write p).2.rows other = (m.setRows id rows).rows other := by
      rw [hw]
      rfl
    rw [hset]
    by_cases ho : other = id
    · subst ho
      rw [rows_setRows]
      rcases hrows with rfl | rfl
      · exact .refl _
      · exact Cursor.leads_run p (.start e m.queries true (m.rows other))
    · rw [rows_setRows_of_ne ho]
      exact .refl _

/-- A call on an engine that is open runs a program, or has nothing to do with its rows. -/
theorem after_cases (ho : m.model.isSome = true) (call : StorageCall) :
    (∃ (ε α : Type) (id : UInt32) (write : Bool) (p : CursorProgram ε α),
      m.after call = (m.withCursor id write p).2) ∨
      (m.after call).model = m.model ∧ (m.after call).tables = m.tables := by
  cases call with
  | openWith other =>
    have hafter : m.after (.openWith other) = (m.openWith other).2 := rfl
    rw [hafter, openWith]
    cases m.demandSound with
    | error e => exact .inr ⟨rfl, rfl⟩
    | ok _ =>
      rw [if_pos ho]
      exact .inr ⟨rfl, rfl⟩
  | withCursor id write p => exact .inl ⟨_, _, id, write, p, rfl⟩
  | createQuery id conditions =>
    have hafter : m.after (.createQuery id conditions) = (m.createQuery id conditions).2 := rfl
    rw [hafter]
    rcases m.createQuery_cases id conditions with ⟨e, hc⟩ | ⟨-, hc⟩ | ⟨e, -, -, -, -, -, hc⟩
    all_goals
      rw [hc]
      exact .inr ⟨rfl, rfl⟩
  | closeQuery handle =>
    have hafter : m.after (.closeQuery handle) = (m.closeQuery handle).2 := rfl
    rw [hafter, closeQuery]
    cases m.queries.compiled handle <;> exact .inr ⟨rfl, rfl⟩
  | describeQuery handle => exact .inr ⟨rfl, rfl⟩
  | bindParameter handle key v =>
    have hafter : m.after (.bindParameter handle key v) = (m.bindParameter handle key v).2 := rfl
    rw [hafter]
    rcases m.bindParameter_cases handle key v with ⟨e, hb⟩ | ⟨q, conditions, -, -, -, hb⟩
    all_goals
      rw [hb]
      exact .inr ⟨rfl, rfl⟩

/-- What an engine keeps that was opened with a model: it has rows for every entity, all of them
under ids that were given. -/
structure Numbered (model : Model) (m : MemoryEngine) : Prop where
  model_eq : m.model = some model
  tabled : ∀ {id : UInt32} {e : ModelEntity}, model.entity? id = some e → id ∈ m.tables
  rows : ∀ id, (m.rows id).Numbered

namespace Numbered

variable {model : Model}

theorem entity_eq (h : m.Numbered model) {e : ModelEntity} (he : model.entity? id = some e) :
    m.entity id = .ok e := by
  rw [entity, h.model_eq]
  simp only [he]

/-- Setting the rows that are there changes nothing. -/
theorem setRows_self (h : m.Numbered model) {e : ModelEntity} (he : model.entity? id = some e) :
    m.setRows id (m.rows id) = m := by
  obtain ⟨r, hr⟩ := Option.isSome_iff_exists.mp
    (Std.ExtTreeMap.mem_iff_isSome_getElem?.mp (h.tabled he))
  have hrows : m.rows id = r := by
    rw [MemoryEngine.rows, Std.ExtTreeMap.getD_eq_getD_getElem?, hr, Option.getD_some]
  rw [setRows, hrows, Keyed.insert_self hr]

theorem withCursor (h : m.Numbered model) (id : UInt32) (write : Bool) (p : CursorProgram ε α) :
    (m.withCursor id write p).2.Numbered model := by
  refine ⟨m.model_withCursor id write p ▸ h.model_eq, ?_, ?_⟩
  · intro other e he
    rcases m.withCursor_cases id write p with hw | ⟨_, rows, poisoned, hw, -⟩
    · rw [hw]
      exact h.tabled he
    · rw [hw]
      exact Std.ExtTreeMap.mem_insert.mpr (.inr (h.tabled he))
  · exact fun other => (m.leads_withCursor id write p other).numbered (h.rows other)

theorem after (h : m.Numbered model) (call : StorageCall) : (m.after call).Numbered model := by
  rcases after_cases (by rw [h.model_eq, Option.isSome_some]) call with
    ⟨ε, α, id, write, p, hm⟩ | ⟨hmodel, htables⟩
  · rw [hm]
    exact h.withCursor id write p
  · refine ⟨hmodel.trans h.model_eq, fun he => htables ▸ h.tabled he, fun id => ?_⟩
    rw [MemoryEngine.rows, htables]
    exact h.rows id

/-- No call takes an id back. -/
theorem leads_after (h : m.Numbered model) (call : StorageCall) (id : UInt32) :
    (m.rows id).Leads ((m.after call).rows id) := by
  rcases after_cases (by rw [h.model_eq, Option.isSome_some]) call with
    ⟨ε, α, other, write, p, hm⟩ | ⟨-, htables⟩
  · rw [hm]
    exact m.leads_withCursor other write p id
  · rw [MemoryEngine.rows, MemoryEngine.rows, htables]
    exact .refl _

theorem run (h : m.Numbered model) (calls : List StorageCall) : (m.run calls).Numbered model := by
  induction calls generalizing m with
  | nil => exact h
  | cons call calls ih => exact ih (h.after call)

/-- No calls take an id back. -/
theorem leads_run (h : m.Numbered model) (calls : List StorageCall) (id : UInt32) :
    (m.rows id).Leads ((m.run calls).rows id) := by
  induction calls generalizing m with
  | nil => exact .refl _
  | cons call calls ih => exact (h.leads_after call id).trans (ih (h.after call))

end Numbered

end MemoryEngine

end RecordStore

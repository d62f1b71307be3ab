import RecordStore.Proofs.Engine.Queries
import RecordStore.Proofs.Engine.Undo

/-! What calls on a cursor do to the rows, told without the log. -/
namespace RecordStore

/-- Whether an attempt found something to be true. -/
def holds {ε : Type} : Except ε Bool → Bool
  | .ok b => b
  | .error _ => false

theorem filterM_eq_filter {ε α : Type} {test : α → Except ε Bool} {xs ys : List α}
    (h : xs.filterM test = .ok ys) : ys = xs.filter fun x => holds (test x) := by
  have haux (xs acc : List α) (ys : List α) (h : xs.filterAuxM test acc = .ok ys) :
      ys = (xs.filter fun x => holds (test x)).reverse ++ acc := by
    induction xs generalizing acc with
    | nil =>
      cases h
      rfl
    | cons x xs ih =>
      obtain ⟨b, hb, h⟩ := bind_eq_ok.mp h
      rw [ih _ h, List.filter_cons]
      cases b <;> simp [hb, holds]
  obtain ⟨found, hf, he⟩ := bind_eq_ok.mp h
  cases he
  rw [haux xs [] found hf, List.append_nil, List.reverse_reverse]

/-- Whether a call may change rows. -/
def CursorCall.mutates : CursorCall → Bool
  | idForPut _ | put .. | remove _ | removeAll | queryRemove _ => true
  | _ => false

namespace Rows

/-- The rows that satisfy a query on an entity. -/
def satisfying (e : ModelEntity) (q : CompiledQuery) (r : Rows) : List (UInt64 × ByteArray) :=
  r.entries.toList.filter fun row =>
    holds ((Cursor.start e .empty false r).selects q.conditions row)

/-- The rows after a call that succeeded. -/
def effect (e : ModelEntity) (queries : QueryTable) (r : Rows) : CursorCall → Rows
  | .idForPut id => { r with lastId := if id = 0 then r.lastId + 1 else max r.lastId id }
  | .put id data => ⟨r.entries.insert id data, max r.lastId id⟩
  | .remove id => { r with entries := r.entries.erase id }
  | .removeAll => { r with entries := ∅ }
  | .queryRemove handle =>
    match queries.compiled handle with
    | .error _ => r
    | .ok q =>
      { r with entries := r.entries.filter fun id bytes =>
          !holds ((Cursor.start e .empty false r).selects q.conditions (id, bytes)) }
  | _ => r

variable {e : ModelEntity} {queries : QueryTable}

theorem effect_idForPut (r : Rows) (id : UInt64) :
    r.effect e queries (.idForPut id) =
      { r with lastId := if id = 0 then r.lastId + 1 else max r.lastId id } := rfl

theorem effect_remove (r : Rows) (id : UInt64) :
    r.effect e queries (.remove id) = { r with entries := r.entries.erase id } := rfl

theorem effect_removeAll (r : Rows) :
    r.effect e queries .removeAll = { r with entries := ∅ } := rfl

theorem effect_queryRemove_error (r : Rows) {handle : UInt64} {x : EngineError}
    (h : queries.compiled handle = .error x) : r.effect e queries (.queryRemove handle) = r := by
  show (match queries.compiled handle with
    | .error _ => r
    | .ok q => _) = _
  rw [h]

theorem effect_queryRemove (r : Rows) {handle : UInt64} {q : CompiledQuery}
    (h : queries.compiled handle = .ok q) :
    r.effect e queries (.queryRemove handle) =
      { r with entries := r.entries.filter fun id bytes =>
          !holds ((Cursor.start e .empty false r).selects q.conditions (id, bytes)) } := by
  show (match queries.compiled handle with
    | .error _ => r
    | .ok q => _) = _
  rw [h]

end Rows

namespace Cursor

/-- What a call that succeeded does to a cursor. -/
structure Succeeds (c : Cursor) (call : CursorCall) (c' : Cursor) : Prop where
  entity_eq : c'.entity = c.entity
  queries_eq : c'.queries = c.queries
  writable_eq : c'.writable = c.writable
  writable : call.mutates = true → c.writable = true
  rows_eq : c'.rows = c.rows.effect c.entity c.queries call
  restored_eq : c'.restored = c.restored

theorem frame_discard (c : Cursor) (id : UInt64) :
    (c.discard id).entity = c.entity ∧ (c.discard id).queries = c.queries ∧
      (c.discard id).writable = c.writable ∧
      (c.discard id).rows = ⟨c.rows.entries.erase id, c.rows.lastId⟩ := by
  rw [discard]
  cases h : c.rows.entries[id]? with
  | some prior => exact ⟨rfl, rfl, rfl, rfl⟩
  | none =>
    rw [Keyed.erase_of_none h]
    exact ⟨rfl, rfl, rfl, rfl⟩

theorem frame_foldl_discard (c : Cursor) (rows : List (UInt64 × ByteArray)) :
    let c' := rows.foldl (fun c row => c.discard row.1) c
    c'.entity = c.entity ∧ c'.queries = c.queries ∧ c'.writable = c.writable ∧
      c'.rows = ⟨rows.foldl (fun entries row => entries.erase row.1) c.rows.entries,
        c.rows.lastId⟩ := by
  induction rows generalizing c with
  | nil => exact ⟨rfl, rfl, rfl, rfl⟩
  | cons row rows ih =>
    obtain ⟨he, hq, hw, hr⟩ := c.frame_discard row.1
    obtain ⟨he', hq', hw', hr'⟩ := ih (c.discard row.1)
    refine ⟨he'.trans he, hq'.trans hq, hw'.trans hw, ?_⟩
    rw [List.foldl_cons, hr', hr]
    rfl

theorem foldl_erase_filter (entries : Entries) (test : UInt64 × ByteArray → Bool) :
    (entries.toList.filter test).foldl (fun entries row => entries.erase row.1) entries =
      entries.filter fun id bytes => !test (id, bytes) := by
  have hfold (rows : List (UInt64 × ByteArray)) (start : Entries) (k : UInt64) :
      (rows.foldl (fun entries row => entries.erase row.1) start)[k]? =
        if k ∈ rows.map (·.1) then none else start[k]? := by
    induction rows generalizing start with
    | nil => simp
    | cons row rows ih =>
      rw [List.foldl_cons, ih, Std.ExtTreeMap.getElem?_erase, List.map_cons]
      by_cases hk : k = row.1
      · simp [hk]
      · have hk' : ¬ compare row.1 k = .eq := fun e => hk (Std.LawfulEqCmp.eq_of_compare e).symm
        simp only [List.mem_cons, hk, false_or, if_neg hk']
  apply Std.ExtTreeMap.ext_getElem?
  intro k
  rw [hfold, Std.ExtTreeMap.getElem?_filter']
  have hmem : k ∈ (entries.toList.filter test).map (·.1) ↔
      ∃ v, entries[k]? = some v ∧ test (k, v) = true := by
    simp [List.mem_map, Std.ExtTreeMap.mem_toList_iff_getElem?_eq_some]
  by_cases hk : k ∈ (entries.toList.filter test).map (·.1)
  · obtain ⟨v, hv, ht⟩ := hmem.mp hk
    rw [if_pos hk, hv]
    simp [Option.filter, ht]
  · rw [if_neg hk]
    cases hv : entries[k]? with
    | none => rfl
    | some v =>
      have ht : test (k, v) = false := by
        rw [Bool.eq_false_iff]
        intro ht
        exact hk (hmem.mpr ⟨v, hv, ht⟩)
      simp [Option.filter, ht]

theorem matching_eq_ok {c : Cursor} {handle : UInt64} {found : List (UInt64 × ByteArray)}
    (h : c.matching handle = .ok found) :
    ∃ q, c.queries.compiled handle = .ok q ∧ found = c.rows.satisfying c.entity q := by
  obtain ⟨q, hq, h⟩ := bind_eq_ok.mp h
  rw [query] at hq
  cases hc : c.queries.compiled handle with
  | error x =>
    rw [hc] at hq
    cases hq
  | ok q' =>
    rw [hc] at hq
    have he : q' = q := by
      by_cases hid : q'.entityId = c.entity.id
      · simpa [hid] using hq
      · simp [hid] at hq
    exact ⟨q', rfl, he ▸ filterM_eq_filter h⟩

theorem demandWritable_ok {c : Cursor} (hw : c.writable = true) : c.demandWritable = .ok () :=
  if_pos hw

theorem demandWritable_error {c : Cursor} (hw : ¬ c.writable = true) :
    c.demandWritable = .error (.error (.readOnly c.entity.name)) := if_neg hw

theorem succeeds_self {c : Cursor} {call : CursorCall} (h : call.mutates = false)
    (he : c.rows.effect c.entity c.queries call = c.rows) : c.Succeeds call c := by
  refine ⟨rfl, rfl, rfl, ?_, he.symm, rfl⟩
  intro hm
  rw [h] at hm
  cases hm

/-- What a call comes to: a failure that changes nothing, or a success with its effect. -/
def Comes (c : Cursor) (call : CursorCall) : Prop :=
  (∃ e, c.step call = (.error e, c)) ∨
    ∃ reply c', c.step call = (.ok reply, c') ∧ c.Succeeds call c'

theorem comes_of_attempt {c : Cursor} {call : CursorCall} {attempt : EngineAttempt call.Reply}
    (hstep : c.step call = (attempt, c)) (h : call.mutates = false)
    (he : c.rows.effect c.entity c.queries call = c.rows) : c.Comes call := by
  cases attempt with
  | error e => exact .inl ⟨e, hstep⟩
  | ok reply => exact .inr ⟨reply, c, hstep, succeeds_self h he⟩

section

variable {c : Cursor}

theorem comes_idForPut (hw : c.writable = true) (id : UInt64) : c.Comes (.idForPut id) := by
  have hstep : c.step (.idForPut id) = c.idForPut id := rfl
  rw [Comes, hstep, idForPut, demandWritable_ok hw]
  by_cases hid : id = 0
  · by_cases hmax : c.rows.lastId = maxId
    · exact .inl ⟨_, by rw [if_pos hid, if_pos hmax]⟩
    · refine .inr ⟨_, _, by rw [if_pos hid, if_neg hmax], ?_⟩
      refine ⟨rfl, rfl, rfl, fun _ => hw, ?_, c.restored_setLastId _⟩
      rw [Rows.effect_idForPut, if_pos hid]
  · refine .inr ⟨_, _, by rw [if_neg hid], ?_⟩
    refine ⟨rfl, rfl, rfl, fun _ => hw, ?_, c.restored_setLastId _⟩
    rw [Rows.effect_idForPut, if_neg hid]

theorem comes_put (hw : c.writable = true) (id : UInt64) (data : ByteArray) :
    c.Comes (.put id data) := by
  have hstep : c.step (.put id data) = c.put id data := rfl
  rw [Comes, hstep, put, demandWritable_ok hw]
  by_cases hid : id = 0
  · exact .inl ⟨_, by rw [if_pos hid]⟩
  · refine .inr ⟨_, _, by rw [if_neg hid], ?_⟩
    exact ⟨rfl, rfl, rfl, fun _ => hw, rfl, c.restored_put _ _ _⟩

theorem comes_remove (hw : c.writable = true) (id : UInt64) : c.Comes (.remove id) := by
  have hstep : c.step (.remove id) = c.remove id := rfl
  rw [Comes, hstep, remove, demandWritable_ok hw]
  obtain ⟨he, hq, hwr, hr⟩ := c.frame_discard id
  exact .inr ⟨_, _, rfl, he, hq, hwr, fun _ => hw, hr, c.restored_discard id⟩

theorem comes_removeAll (hw : c.writable = true) : c.Comes .removeAll := by
  have hstep : c.step .removeAll = c.removeAll := rfl
  rw [Comes, hstep, removeAll, demandWritable_ok hw]
  exact .inr ⟨_, _, rfl, rfl, rfl, rfl, fun _ => hw, rfl, c.restored_removeAll⟩

theorem comes_queryRemove (hw : c.writable = true) (handle : UInt64) :
    c.Comes (.queryRemove handle) := by
  have hstep : c.step (.queryRemove handle) = c.queryRemove handle := rfl
  rw [Comes, hstep, queryRemove, demandWritable_ok hw]
  cases hm : c.matching handle with
  | error e => exact .inl ⟨e, rfl⟩
  | ok found =>
    obtain ⟨q, hq, hfound⟩ := matching_eq_ok hm
    obtain ⟨he, hqs, hwr, hr⟩ := c.frame_foldl_discard found
    refine .inr ⟨_, _, rfl, he, hqs, hwr, fun _ => hw, ?_, c.restored_foldl_discard found⟩
    rw [hr, hfound, Rows.satisfying, foldl_erase_filter, Rows.effect_queryRemove c.rows hq]

/-- A cursor for reading refuses every call that changes rows. -/
theorem fails_of_reading (hw : ¬ c.writable = true) {call : CursorCall}
    (hm : call.mutates = true) : ∃ e, c.step call = (.error e, c) := by
  cases call with
  | idForPut id =>
    have hstep : c.step (.idForPut id) = c.idForPut id := rfl
    rw [hstep, idForPut, demandWritable_error hw]
    exact ⟨_, rfl⟩
  | put id data =>
    have hstep : c.step (.put id data) = c.put id data := rfl
    rw [hstep, put, demandWritable_error hw]
    by_cases hid : id = 0
    · exact ⟨_, by rw [if_pos hid]⟩
    · exact ⟨_, by rw [if_neg hid]⟩
  | remove id =>
    have hstep : c.step (.remove id) = c.remove id := rfl
    rw [hstep, remove, demandWritable_error hw]
    exact ⟨_, rfl⟩
  | removeAll =>
    have hstep : c.step .removeAll = c.removeAll := rfl
    rw [hstep, removeAll, demandWritable_error hw]
    exact ⟨_, rfl⟩
  | queryRemove handle =>
    have hstep : c.step (.queryRemove handle) = c.queryRemove handle := rfl
    rw [hstep, queryRemove, demandWritable_error hw]
    cases c.matching handle with
    | error e => exact ⟨e, rfl⟩
    | ok found => exact ⟨_, rfl⟩
  | _ => cases hm

end

/-- A call fails and changes nothing, or succeeds and has its effect. -/
theorem comes_step (c : Cursor) (call : CursorCall) : c.Comes call := by
  by_cases hw : c.writable = true
  · cases call with
    | idForPut id => exact comes_idForPut hw id
    | put id data => exact comes_put hw id data
    | remove id => exact comes_remove hw id
    | removeAll => exact comes_removeAll hw
    | queryRemove handle => exact comes_queryRemove hw handle
    | _ => exact comes_of_attempt rfl rfl rfl
  · by_cases hm : call.mutates = true
    · exact .inl (fails_of_reading hw hm)
    · cases call with
      | idForPut _ | put _ _ | remove _ | removeAll | queryRemove _ => exact absurd rfl hm
      | _ => exact comes_of_attempt rfl rfl rfl

end Cursor

end RecordStore

import RecordStore.Proofs.Store.Holdings

/-! Records that are put together. What comes of it is what comes of putting them one after the
other; if one of them cannot be encoded, nothing does. -/
namespace RecordStore

/-- The ids that records are put under one after the other, if `last` is the highest one given so
far and there is one for each. -/
def nextIds? : UInt64 → List UInt64 → Option (List UInt64)
  | _, [] => some []
  | last, asked :: rest =>
    (nextId? last asked).bind fun id => (nextIds? (max last id) rest).map (id :: ·)

theorem nextIds?_cons_eq_some {last asked : UInt64} {rest ids : List UInt64} :
    nextIds? last (asked :: rest) = some ids ↔
      ∃ id later, nextId? last asked = some id ∧ nextIds? (max last id) rest = some later ∧
        ids = id :: later := by
  simp only [nextIds?, Option.bind_eq_some_iff, Option.map_eq_some_iff]
  constructor
  · rintro ⟨id, hid, later, hlater, rfl⟩
    exact ⟨id, later, hid, hlater, rfl⟩
  · rintro ⟨id, later, hid, hlater, rfl⟩
    exact ⟨id, hid, later, hlater, rfl⟩

theorem length_nextIds? {last : UInt64} {asked ids : List UInt64}
    (h : nextIds? last asked = some ids) : ids.length = asked.length := by
  induction asked generalizing last ids with
  | nil =>
    cases h
    rfl
  | cons id asked ih =>
    obtain ⟨id, later, -, hlater, rfl⟩ := nextIds?_cons_eq_some.mp h
    rw [List.length_cons, List.length_cons, ih hlater]

/-- Records that can all be encoded are put under ids one after the other, and lead from rows to
others. -/
inductive Puts (b : Binding) : Rows → List (Record b.types) → List UInt64 → Rows → Prop
  | nil {rows : Rows} : Puts b rows [] [] rows
  | cons {rows rows' : Rows} {r : Record b.types} {rs : List (Record b.types)} {id : UInt64}
    {ids : List UInt64} {data : ByteArray} (id_eq : nextId? rows.lastId (b.id r) = some id)
    (encode_eq : b.encode r id = .ok data) (rest : Puts b (rows.insert id data) rs ids rows') :
    Puts b rows (r :: rs) (id :: ids) rows'

namespace Puts

variable {b : Binding} {rows rows' : Rows} {rs : List (Record b.types)} {ids : List UInt64}

/-- Records are put as long as there are ids for them and they can be encoded. -/
theorem of_nextIds? {more later : List UInt64} (hlen : ids.length = rs.length)
    (hids : nextIds? rows.lastId (rs.map b.id ++ more) = some (ids ++ later))
    (henc : ∀ x ∈ rs.zip ids, ∃ data, b.encode x.1 x.2 = .ok data) :
    ∃ rows', Puts b rows rs ids rows' ∧ nextIds? rows'.lastId more = some later := by
  induction rs generalizing rows ids with
  | nil =>
    rw [List.length_nil, List.length_eq_zero_iff] at hlen
    subst hlen
    exact ⟨rows, .nil, hids⟩
  | cons r rs ih =>
    obtain ⟨id, rest, hid, hrest, hsplit⟩ := nextIds?_cons_eq_some.mp hids
    -- There is an id for each record, so the first one is not among those behind.
    cases ids with
    | nil => simp at hlen
    | cons given ids =>
      simp only [List.cons_append, List.cons.injEq] at hsplit
      obtain ⟨rfl, rfl⟩ := hsplit
      rw [List.zip_cons_cons, List.forall_mem_cons] at henc
      obtain ⟨⟨data, hdata⟩, henc⟩ := henc
      have hrest' : nextIds? (rows.insert given data).lastId (rs.map b.id ++ more) =
          some (ids ++ later) := hrest
      obtain ⟨rows', hputs, hlater⟩ := ih (Nat.succ.inj hlen) hrest' henc
      exact ⟨rows', .cons hid hdata hputs, hlater⟩

/-- Records in front of another are put as long as there are ids for all of them and they can be
encoded, and then there is one for the other. -/
theorem of_nextIds?_concat {r : Record b.types} {id : UInt64}
    (hids : nextIds? rows.lastId ((rs ++ [r]).map b.id) = some (ids ++ [id]))
    (henc : ∀ x ∈ rs.zip ids, ∃ data, b.encode x.1 x.2 = .ok data) :
    ∃ rows', Puts b rows rs ids rows' ∧ nextId? rows'.lastId (b.id r) = some id := by
  have hlen := length_nextIds? hids
  simp only [List.length_append, List.length_map, List.length_singleton,
    Nat.add_right_cancel_iff] at hlen
  rw [List.map_append] at hids
  obtain ⟨rows', hputs, hlater⟩ := of_nextIds? hlen hids henc
  obtain ⟨given, _, hid, -, heq⟩ := nextIds?_cons_eq_some.mp hlater
  cases heq
  exact ⟨rows', hputs, hid⟩

/-- A program that puts records has come by the rows that they lead to when it goes on. -/
theorem run_putAllThen (h : Puts b rows rs ids rows') {α : Type} (more : List (Record b.types))
    (next : List UInt64 → CursorProgram StoreError α) {c : Cursor} (hw : c.writable = true)
    (hc : c.rows = rows) :
    ∃ c', (CursorProgram.putAllThen b (rs ++ more) next).run c =
        (CursorProgram.putAllThen b more fun later => next (ids ++ later)).run c' ∧
      c'.writable = true ∧ c'.rows = rows' := by
  induction h generalizing c next with
  | nil => exact ⟨c, rfl, hw, hc⟩
  | cons id_eq encode_eq rest ih =>
    subst hc
    obtain ⟨c₁, hrun, hw₁, hrows⟩ := CursorProgram.run_putThen hw id_eq encode_eq _
    obtain ⟨c₂, hrest, hfinal⟩ := ih (fun later => next (_ :: later)) hw₁ hrows
    exact ⟨c₂, hrun.trans hrest, hfinal⟩

end Puts

/-- Whatever the records, all of them are put, or those in front of one that cannot be encoded or
for which there is no id. -/
theorem Puts.exists_puts (b : Binding) (rows : Rows) (rs : List (Record b.types)) :
    (∃ ids rows', Puts b rows rs ids rows') ∨
      ∃ before r after ids rows', rs = before ++ r :: after ∧ Puts b rows before ids rows' ∧
        (nextId? rows'.lastId (b.id r) = none ∨
          ∃ id cause, nextId? rows'.lastId (b.id r) = some id ∧ b.encode r id = .error cause) := by
  induction rs generalizing rows with
  | nil => exact .inl ⟨[], rows, .nil⟩
  | cons r rs ih =>
    cases hid : nextId? rows.lastId (b.id r) with
    | none => exact .inr ⟨[], r, rs, [], rows, rfl, .nil, .inl hid⟩
    | some id =>
      cases henc : b.encode r id with
      | error cause => exact .inr ⟨[], r, rs, [], rows, rfl, .nil, .inr ⟨id, cause, hid, henc⟩⟩
      | ok data =>
        rcases ih (rows.insert id data) with
          ⟨ids, rows', hputs⟩ | ⟨before, r', after, ids, rows', rfl, hputs, hstop⟩
        · exact .inl ⟨id :: ids, rows', .cons hid henc hputs⟩
        · exact .inr ⟨r :: before, r', after, id :: ids, rows', rfl, .cons hid henc hputs, hstop⟩

theorem MemoryEngine.setRows_setRows (m : MemoryEngine) (id : UInt32) (rows rows' : Rows) :
    (m.setRows id rows).setRows id rows' = m.setRows id rows' := by
  simp only [setRows, Keyed.insert_insert]

namespace Box

/-- Stores records one after the other, each for itself. -/
def putEach {σ : Type} (s : Storage σ) (b : Box) :
    List b.Item → σ → List (StoreAttempt UInt64 × b.Item) × σ
  | [], state => ([], state)
  | r :: rest, state =>
    let (reply, state) := b.put s r state
    let (replies, state) := b.putEach s rest state
    (reply :: replies, state)

section

variable (store : Store) {b : Binding} {m : MemoryEngine}

theorem putAll_refused {e : EngineError}
    (h : (m.demandSound >>= fun _ => m.entity b.entity.id) = .error e)
    (rs : List (Record b.types)) :
    putAll MemoryEngine.storage ⟨store, b⟩ rs m = ((.error (.error (.engine e)), rs), m) := by
  rw [putAll, run, MemoryEngine.runCursor_refused h]

theorem putEach_refused {e : EngineError}
    (h : (m.demandSound >>= fun _ => m.entity b.entity.id) = .error e)
    (rs : List (Record b.types)) :
    putEach MemoryEngine.storage ⟨store, b⟩ rs m =
      (rs.map fun r => (.error (.error (.engine e)), r), m) := by
  induction rs with
  | nil => rfl
  | cons r rs ih =>
    rw [putEach, put_refused store h r]
    simp only [ih, List.map_cons]

variable {e : ModelEntity} (hp : m.poisoned = false) (he : m.entity b.entity.id = .ok e)
  {rs : List (Record b.types)} {ids : List UInt64} {rows : Rows}
include hp he

theorem putAll_of_puts (h : Puts b (m.rows b.entity.id) rs ids rows) :
    putAll MemoryEngine.storage ⟨store, b⟩ rs m =
      ((.ok ids, List.zipWith b.setId rs ids), m.setRows b.entity.id rows) := by
  obtain ⟨c, hrun, -, hrows⟩ := h.run_putAllThen [] (fun ids => .done (.ok ids))
    (c := .start e m.queries true (m.rows b.entity.id)) rfl rfl
  rw [List.append_nil, CursorProgram.putAllThen, List.append_nil, CursorProgram.run] at hrun
  rw [putAll, run_eq ⟨store, b⟩ hp he hrun]
  simp only [if_true, hrows, Rows.settled]
  rfl

variable {r : Record b.types} (after : List (Record b.types))

/-- The records in front have been put by the time the encoding fails, and go with the program's
other changes. -/
theorem putAll_of_error (h : Puts b (m.rows b.entity.id) rs ids rows) {id : UInt64}
    (hid : nextId? rows.lastId (b.id r) = some id) {cause : Buffer.BuildError}
    (henc : b.encode r id = .error cause) :
    putAll MemoryEngine.storage ⟨store, b⟩ (rs ++ r :: after) m =
      ((.error (.error (.build cause)), rs ++ r :: after),
        m.setRows b.entity.id (m.rows b.entity.id)) := by
  obtain ⟨c, hrun, hw, hrows⟩ := h.run_putAllThen (r :: after) (fun ids => .done (.ok ids))
    (c := .start e m.queries true (m.rows b.entity.id)) rfl rfl
  subst hrows
  obtain ⟨c', hstop⟩ := CursorProgram.run_putThen_error hw hid henc _
  rw [putAll, run_eq ⟨store, b⟩ hp he (hrun.trans hstop)]
  rfl

/-- The records in front stay where an overflow ends the program. -/
theorem putAll_exhausted (h : Puts b (m.rows b.entity.id) rs ids rows)
    (hid : nextId? rows.lastId (b.id r) = none) :
    putAll MemoryEngine.storage ⟨store, b⟩ (rs ++ r :: after) m =
      ((.error (.overflow .addition), rs ++ r :: after),
        { m.setRows b.entity.id rows with poisoned := true }) := by
  obtain ⟨c, hrun, hw, hrows⟩ := h.run_putAllThen (r :: after) (fun ids => .done (.ok ids))
    (c := .start e m.queries true (m.rows b.entity.id)) rfl rfl
  subst hrows
  have hstop := hrun.trans (CursorProgram.run_putThen_exhausted hw hid _)
  rw [putAll, run, MemoryEngine.runCursor_overflow hp he hstop]

theorem putEach_of_puts
    (hself : m.setRows b.entity.id (m.rows b.entity.id) = m)
    (h : Puts b (m.rows b.entity.id) rs ids rows) :
    putEach MemoryEngine.storage ⟨store, b⟩ rs m =
      (List.zipWith (fun r id => (.ok id, b.setId r id)) rs ids, m.setRows b.entity.id rows) := by
  generalize hr : m.rows b.entity.id = start at h
  induction h generalizing m with
  | nil =>
    rw [← hr, hself]
    rfl
  | @cons start rows r rs id ids data id_eq encode_eq rest ih =>
    subst hr
    have hrest := ih (m := m.setRows b.entity.id ((m.rows b.entity.id).insert id data)) hp he
      (by rw [m.rows_setRows, m.setRows_setRows]) (m.rows_setRows ..)
    rw [putEach, put_of_encode store hp he id_eq encode_eq]
    simp only [hrest, m.setRows_setRows, List.zipWith_cons_cons]

end

end Box

/-- A store gives boxes for entities of its model only. -/
theorem Store.exists_entity {store : Store} {b : Binding} {box : Box}
    (h : store.box b = .ok box) : ∃ e, store.model.entity? b.entity.id = some e := by
  rw [Store.box] at h
  by_cases hsome : (store.model.entity? b.entity.id).isSome = true
  · exact Option.isSome_iff_exists.mp hsome
  · rw [if_neg hsome] at h
    cases h

/-- In every state that a store can come to, records that are put together take the ids, and leave
the engine, that they would if each was put for itself, if all of them can be encoded. If one cannot
be encoded, the error of the first such record is answered, and nothing has changed. After an
overflow neither puts anything. -/
theorem putAll_all_or_nothing {model : Model} {debug : Bool} {b : Binding}
    (hbox : Store.box ⟨model, debug⟩ b = .ok ⟨⟨model, debug⟩, b⟩) (calls : List StorageCall)
    (rs : List (Record b.types)) :
    let box : Box := ⟨⟨model, debug⟩, b⟩
    let m := (MemoryEngine.opened model).run calls
    let last := (m.rows b.entity.id).lastId
    (m.poisoned = false →
      (∀ ids, nextIds? last (rs.map b.id) = some ids →
        (∀ x ∈ rs.zip ids, ∃ data, b.encode x.1 x.2 = .ok data) →
          ∃ m', box.putAll MemoryEngine.storage rs m =
              ((.ok ids, List.zipWith b.setId rs ids), m') ∧
            box.putEach MemoryEngine.storage rs m =
              (List.zipWith (fun r id => (.ok id, b.setId r id)) rs ids, m')) ∧
      ∀ before r after ids id cause, rs = before ++ r :: after →
        nextIds? last ((before ++ [r]).map b.id) = some (ids ++ [id]) →
          (∀ x ∈ before.zip ids, ∃ data, b.encode x.1 x.2 = .ok data) →
            b.encode r id = .error cause →
              box.putAll MemoryEngine.storage rs m = ((.error (.error (.build cause)), rs), m)) ∧
    (m.poisoned = true →
      box.putAll MemoryEngine.storage rs m = ((.error (.error (.engine .poisoned)), rs), m) ∧
        box.putEach MemoryEngine.storage rs m =
          (rs.map fun r => (.error (.error (.engine .poisoned)), r), m)) := by
  intro box m last
  have hnumbered := (MemoryEngine.numbered_opened model).run calls
  obtain ⟨e, he⟩ := Store.exists_entity hbox
  have hself := hnumbered.setRows_self he
  refine ⟨fun hp => ⟨?_, ?_⟩, fun hp => ?_⟩
  · intro ids hids henc
    have hlen : ids.length = rs.length := by rw [length_nextIds? hids, List.length_map]
    rw [← List.append_nil (rs.map b.id), ← List.append_nil ids] at hids
    obtain ⟨rows, hputs, -⟩ := Puts.of_nextIds? hlen hids henc
    exact ⟨_, Box.putAll_of_puts _ hp (hnumbered.entity_eq he) hputs,
      Box.putEach_of_puts _ hp (hnumbered.entity_eq he) hself hputs⟩
  · rintro before r after ids id cause rfl hids henc hcause
    obtain ⟨rows, hputs, hid⟩ := Puts.of_nextIds?_concat hids henc
    rw [Box.putAll_of_error _ hp (hnumbered.entity_eq he) after hputs hid hcause]
    exact congrArg (Prod.mk _) hself
  · have hd := MemoryEngine.demandSound_of_poisoned hp b.entity.id
    exact ⟨Box.putAll_refused _ hd rs, Box.putEach_refused _ hd rs⟩

/-- Meters, which hold a number as wide as the machine. -/
def Schema.meter : Entity := Samples.entity 1 1000 "Meter" ⟨2, 1002⟩
  [Samples.property 1 1001 "id" .u64, Samples.property 2 1002 "count" .usize]

theorem putAll_all_or_nothing_meter :
    ∃ (b : Binding) (model : Model) (rs unfit : List (Record b.types)) (m : MemoryEngine)
      (cause : Buffer.BuildError), Binding.ofEntity Schema.meter = .ok b ∧
        rs.map b.id = [0, 5, 0] ∧
        Box.putAll MemoryEngine.storage ⟨⟨model, false⟩, b⟩ rs (.opened model) =
          ((.ok [1, 5, 6], List.zipWith b.setId rs [1, 5, 6]), m) ∧
        (Box.putEach MemoryEngine.storage ⟨⟨model, false⟩, b⟩ rs (.opened model)).2 = m ∧
        Box.putAll MemoryEngine.storage ⟨⟨model, false⟩, b⟩ unfit (.opened model) =
          ((.error (.error (.build cause)), unfit), .opened model) := by
  have hcheck : (Binding.ofEntity Schema.meter).toOption.any (fun b =>
      (ModelBuilder.empty.applyAll (Binding.modelCallsOf [b] none)).2.build.toOption.any
        fun model => (model.entity? b.entity.id).isSome ∧ b.types = [.u64, .usize] ∧
          ∀ ht : [FieldType.u64, .usize] = b.types,
            let meter (id count : UInt64) : Record b.types := ⟨[.u64 id, .usize count], ht⟩
            let rs := [meter 0 7, meter 5 8, meter 0 9]
            let m := (MemoryEngine.opened model).run []
            (m.poisoned = false ∧ rs.map b.id = [0, 5, 0] ∧
              nextIds? (m.rows b.entity.id).lastId (rs.map b.id) = some [1, 5, 6] ∧
              ∀ x ∈ rs.zip [1, 5, 6], (b.encode x.1 x.2).toOption.isSome) ∧
            nextIds? (m.rows b.entity.id).lastId (([meter 0 7] ++ [meter 0 4294967296]).map b.id) =
              some ([1] ++ [2]) ∧
            (∀ x ∈ [meter 0 7].zip [1], (b.encode x.1 x.2).toOption.isSome) ∧
            b.encode (meter 0 4294967296) 2 = .error (.slotOverflow 1)) = true := by
    decide +kernel
  obtain ⟨b, hb, hany⟩ := (Option.any_eq_true ..).mp hcheck
  obtain ⟨model, -, hchecked⟩ := (Option.any_eq_true ..).mp hany
  obtain ⟨hentity, ht, hrun⟩ := of_decide_eq_true hchecked
  obtain ⟨⟨hp, hasked, hids, henc⟩, hids', henc', hcause⟩ := hrun ht.symm
  have hbox : Store.box ⟨model, false⟩ b = .ok ⟨⟨model, false⟩, b⟩ := if_pos hentity
  obtain ⟨hfit, -⟩ := (putAll_all_or_nothing hbox [] _).1 hp
  obtain ⟨-, hunfit⟩ := (putAll_all_or_nothing hbox [] _).1 hp
  obtain ⟨m, hall, heach⟩ := hfit _ hids fun x hx => exists_ok (henc x hx)
  exact ⟨b, model, _, _, m, _, of_toOption hb, hasked, hall, congrArg Prod.snd heach,
    hunfit _ _ [] _ _ _ rfl hids' (fun x hx => exists_ok (henc' x hx)) hcause⟩

end RecordStore

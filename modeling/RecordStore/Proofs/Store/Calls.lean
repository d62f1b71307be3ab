import RecordStore.Proofs.Engine.Numbering
import RecordStore.Proofs.Store.Stands

/-! What each call on a box answers and leaves, in terms of the shelf that the rows hold. -/
namespace RecordStore

namespace CursorProgram

variable {α : Type} {c c' : Cursor} {call : CursorCall}
  {next : call.Reply → CursorProgram StoreError α}

theorem run_request_ok {reply : call.Reply} (h : c.step call = (.ok reply, c')) :
    (request call next).run c = (next reply).run c' := by
  rw [request, run, h]

theorem run_request_error {x : EngineError} (h : c.step call = (.error (.error x), c')) :
    (request call next).run c = (.ok (.error (.engine x)), c') := by
  rw [request, run, h]
  rfl

end CursorProgram

/-- The rows that an outcome leaves: the changed ones, or the old ones if it is an error. -/
def Rows.settled {ε α : Type} (changed old : Rows) : Except ε α → Rows
  | .ok _ => changed
  | .error _ => old

namespace MemoryEngine

/-- What a program makes of an engine that no overflow has hit: the rows are changed as a whole or
not at all. -/
theorem runCursor_eq {m : MemoryEngine} {id : UInt32} {e : ModelEntity} {α : Type} {write : Bool}
    {p : CursorProgram StoreError α} {result : Except StoreError α} {c : Cursor}
    (hp : m.poisoned = false) (he : m.entity id = .ok e)
    (hrun : p.run (.start e m.queries write (m.rows id)) = (.ok result, c)) :
    storage.runCursor id write p m =
      (.ofExcept result,
        if write then m.setRows id (c.rows.settled (m.rows id) result) else m) := by
  have hreach := Cursor.reaches_run p (.start e m.queries write (m.rows id))
  rw [hrun] at hreach
  have hwith := withCursor_eq hp he hrun
  have hstorage : storage.withCursor id write p m = m.withCursor id write p := rfl
  rw [Storage.runCursor, hstorage, hwith]
  cases write with
  | false => rfl
  | true =>
    cases result with
    | ok a => rfl
    | error x =>
      have hback : c.log.rollback c.rows = m.rows id :=
        hreach.restored_eq.trans (Cursor.restored_start ..)
      simp only [if_true, settle, hback, Rows.settled]

theorem runCursor_request_eq {m : MemoryEngine} {id : UInt32} {e : ModelEntity} {α : Type}
    (write : Bool) (call : CursorCall) (next : call.Reply → CursorProgram StoreError α)
    {reply : call.Reply} {result : Except StoreError α} {c : Cursor} (hp : m.poisoned = false)
    (he : m.entity id = .ok e)
    (hstep : (Cursor.start e m.queries write (m.rows id)).step call = (.ok reply, c))
    (hnext : next reply = .done result) :
    storage.runCursor id write (.request call next) m =
      (.ofExcept result,
        if write then m.setRows id (c.rows.settled (m.rows id) result) else m) := by
  refine runCursor_eq hp he ?_
  rw [CursorProgram.run_request_ok hstep, hnext]
  rfl

/-- A call that fails ends the program with its error, and sets the rows to what they were. -/
theorem runCursor_request_error {m : MemoryEngine} {id : UInt32} {e : ModelEntity} {α : Type}
    (write : Bool) {call : CursorCall} {x : EngineError} {c : Cursor} (hp : m.poisoned = false)
    (he : m.entity id = .ok e)
    (hstep : (Cursor.start e m.queries write (m.rows id)).step call = (.error (.error x), c))
    (next : call.Reply → CursorProgram StoreError α) :
    storage.runCursor id write (.request call next) m =
      (.error (.error (.engine x)), if write then m.setRows id (m.rows id) else m) :=
  runCursor_eq hp he (CursorProgram.run_request_error hstep)

/-- A program that only reads leaves the engine as it is. -/
theorem snd_runCursor_reading {α : Type} (id : UInt32) (p : CursorProgram StoreError α)
    (m : MemoryEngine) : (storage.runCursor id false p m).2 = m := by
  have hstorage : storage.withCursor id false p m = m.withCursor id false p := rfl
  rw [Storage.runCursor, hstorage, withCursor]
  cases m.demandSound >>= fun _ => m.entity id with
  | error e => rfl
  | ok e =>
    simp only [Bool.false_eq_true, if_false]
    cases (p.run (.start e m.queries false (m.rows id))).1 <;> rfl

/-- An overflow leaves the rows where it has hit, and keeps programs from running from then on. -/
theorem runCursor_overflow {m : MemoryEngine} {id : UInt32} {e : ModelEntity} {α : Type}
    {p : CursorProgram StoreError α} {o : Overflow} {c : Cursor} (hp : m.poisoned = false)
    (he : m.entity id = .ok e)
    (hrun : p.run (.start e m.queries true (m.rows id)) = (.error o, c)) :
    storage.runCursor id true p m =
      (.error (.overflow o), { m.setRows id c.rows with poisoned := true }) := by
  have hstorage : storage.withCursor id true p m = m.withCursor id true p := rfl
  rw [Storage.runCursor, hstorage, withCursor_eq hp he hrun]
  rfl

theorem of_demandSound {m : MemoryEngine} {id : UInt32} {e : ModelEntity}
    (h : (m.demandSound >>= fun _ => m.entity id) = .ok e) :
    m.poisoned = false ∧ m.entity id = .ok e := by
  obtain ⟨_, hd, he⟩ := bind_eq_ok.mp h
  exact ⟨Bool.eq_false_iff.mpr (ite_error_eq_ok.mp hd).1, he⟩

theorem demandSound_of_poisoned {m : MemoryEngine} (hp : m.poisoned = true) (id : UInt32) :
    (m.demandSound >>= fun _ => m.entity id) = .error .poisoned := by
  rw [demandSound, if_pos hp, error_bind]

/-- A program does not run on an engine that an overflow has hit or that has no such entity. -/
theorem runCursor_refused {m : MemoryEngine} {id : UInt32} {e : EngineError}
    (h : (m.demandSound >>= fun _ => m.entity id) = .error e) {α : Type} (write : Bool)
    (p : CursorProgram StoreError α) :
    storage.runCursor id write p m = (.error (.error (.engine e)), m) := by
  have hstorage : storage.withCursor id write p m = m.withCursor id write p := rfl
  rw [Storage.runCursor, hstorage, withCursor, h]
  rfl

end MemoryEngine

namespace Box

theorem run_eq (box : Box) {m : MemoryEngine} {e : ModelEntity} {α : Type} {write : Bool}
    {p : CursorProgram StoreError α} {result : Except StoreError α} {c : Cursor}
    (hp : m.poisoned = false) (he : m.entity box.binding.entity.id = .ok e)
    (hrun : p.run (.start e m.queries write (m.rows box.binding.entity.id)) = (.ok result, c)) :
    box.run MemoryEngine.storage write p m =
      (.ofExcept result,
        if write then
          m.setRows box.binding.entity.id
            (c.rows.settled (m.rows box.binding.entity.id) result)
        else m) := MemoryEngine.runCursor_eq hp he hrun

theorem run_request_eq {m : MemoryEngine} {e : ModelEntity} {α : Type} (store : Store)
    (b : Binding) (write : Bool) (call : CursorCall)
    (next : call.Reply → CursorProgram StoreError α) {reply : call.Reply}
    {result : Except StoreError α} {c : Cursor} (hp : m.poisoned = false)
    (he : m.entity b.entity.id = .ok e)
    (hstep : (Cursor.start e m.queries write (m.rows b.entity.id)).step call = (.ok reply, c))
    (hnext : next reply = .done result) :
    (Box.mk store b).run MemoryEngine.storage write (.request call next) m =
      (.ofExcept result,
        if write then
          m.setRows b.entity.id (c.rows.settled (m.rows b.entity.id) result)
        else m) := MemoryEngine.runCursor_request_eq write call next hp he hstep hnext

end Box

namespace CursorProgram

variable {α : Type} {c : Cursor} {b : Binding} {r : Record b.types} {id : UInt64}

theorem run_putThen (hw : c.writable = true) (hid : nextId? c.rows.lastId (b.id r) = some id)
    {data : ByteArray} (henc : b.encode r id = .ok data)
    (next : UInt64 → CursorProgram StoreError α) :
    ∃ c', (putThen b r next).run c = (next id).run c' ∧ c'.writable = true ∧
      c'.rows = c.rows.insert id data := by
  have hput := Cursor.step_put
    (c := { c with rows := { c.rows with lastId := max c.rows.lastId id } }) hw
    (ne_zero_of_nextId? hid) data
  rw [putThen, run_request_ok (Cursor.step_idForPut hw hid), henc]
  refine ⟨_, run_request_ok hput, hw, ?_⟩
  simp only [Rows.insert, max_max_right]

theorem run_putThen_error (hw : c.writable = true)
    (hid : nextId? c.rows.lastId (b.id r) = some id) {cause : Buffer.BuildError}
    (henc : b.encode r id = .error cause) (next : UInt64 → CursorProgram StoreError α) :
    ∃ c', (putThen b r next).run c = (.ok (.error (.build cause)), c') := by
  rw [putThen, run_request_ok (Cursor.step_idForPut hw hid), henc]
  exact ⟨_, rfl⟩

theorem run_putThen_exhausted (hw : c.writable = true)
    (hid : nextId? c.rows.lastId (b.id r) = none) (next : UInt64 → CursorProgram StoreError α) :
    (putThen b r next).run c = (.error .addition, c) := by
  rw [putThen, request, run, Cursor.step_idForPut_exhausted hw hid]

end CursorProgram

theorem Stands.nextId?_eq {b : Binding} {rows : Rows} {shelf : Shelf b.types}
    (h : Stands b rows shelf) (asked : UInt64) :
    nextId? rows.lastId asked = shelf.idFor? asked := by
  rw [h.counter_eq]
  rfl

namespace Box

theorem put_refused (store : Store) {b : Binding} {m : MemoryEngine} {e : EngineError}
    (h : (m.demandSound >>= fun _ => m.entity b.entity.id) = .error e) (r : Record b.types) :
    put MemoryEngine.storage ⟨store, b⟩ r m = ((.error (.error (.engine e)), r), m) := by
  rw [put, run, MemoryEngine.runCursor_refused h]

section

variable (store : Store) {b : Binding} {m : MemoryEngine} {e : ModelEntity}
  (hp : m.poisoned = false) (he : m.entity b.entity.id = .ok e) {r : Record b.types} {id : UInt64}
include hp he

theorem put_of_encode (hid : nextId? (m.rows b.entity.id).lastId (b.id r) = some id)
    {data : ByteArray} (henc : b.encode r id = .ok data) :
    put MemoryEngine.storage ⟨store, b⟩ r m =
      ((.ok id, b.setId r id),
        m.setRows b.entity.id ((m.rows b.entity.id).insert id data)) := by
  obtain ⟨c, hrun, -, hrows⟩ := CursorProgram.run_putThen
    (c := .start e m.queries true (m.rows b.entity.id)) rfl hid henc fun id => .done (.ok id)
  rw [put, run_eq ⟨store, b⟩ hp he hrun]
  simp only [if_true, hrows]
  rfl

/-- The id has been given by the time the encoding fails, and goes back with the program's other
changes. -/
theorem put_of_error (hid : nextId? (m.rows b.entity.id).lastId (b.id r) = some id)
    {cause : Buffer.BuildError} (henc : b.encode r id = .error cause) :
    put MemoryEngine.storage ⟨store, b⟩ r m =
      ((.error (.error (.build cause)), r), m.setRows b.entity.id (m.rows b.entity.id)) := by
  obtain ⟨c, hrun⟩ := CursorProgram.run_putThen_error
    (c := .start e m.queries true (m.rows b.entity.id)) rfl hid henc fun id => .done (.ok id)
  rw [put, run_eq ⟨store, b⟩ hp he hrun]
  rfl

/-- A put that asks for a new id when there is none overflows, and no program runs any more. -/
theorem put_exhausted (hid : nextId? (m.rows b.entity.id).lastId (b.id r) = none) :
    put MemoryEngine.storage ⟨store, b⟩ r m =
      ((.error (.overflow .addition), r),
        { m.setRows b.entity.id (m.rows b.entity.id) with poisoned := true }) := by
  have hrun := CursorProgram.run_putThen_exhausted
    (c := .start e m.queries true (m.rows b.entity.id)) rfl hid
    fun id => (.done (.ok id) : CursorProgram StoreError UInt64)
  rw [put, run, MemoryEngine.runCursor_overflow hp he hrun]
  rfl

theorem of_put_of_sound {r' : Record b.types} {m' : MemoryEngine}
    (hput : put MemoryEngine.storage ⟨store, b⟩ r m = ((.ok id, r'), m')) :
    nextId? (m.rows b.entity.id).lastId (b.id r) = some id ∧ r' = b.setId r id ∧
      ∃ data, b.encode r id = .ok data ∧
        m' = m.setRows b.entity.id ((m.rows b.entity.id).insert id data) := by
  cases hid : nextId? (m.rows b.entity.id).lastId (b.id r) with
  | none =>
    rw [put_exhausted store hp he hid] at hput
    cases hput
  | some given =>
    cases henc : b.encode r given with
    | error x =>
      rw [put_of_error store hp he hid henc] at hput
      cases hput
    | ok data =>
      rw [put_of_encode store hp he hid henc] at hput
      cases hput
      exact ⟨rfl, rfl, data, henc, rfl⟩

end

/-- What a put that succeeds has given and encoded, and what it leaves. -/
theorem of_put_ok (store : Store) {b : Binding} {m m' : MemoryEngine} {r r' : Record b.types}
    {id : UInt64} (hput : put MemoryEngine.storage ⟨store, b⟩ r m = ((.ok id, r'), m')) :
    nextId? (m.rows b.entity.id).lastId (b.id r) = some id ∧ r' = b.setId r id ∧
      ∃ data, b.encode r id = .ok data ∧
        m' = m.setRows b.entity.id ((m.rows b.entity.id).insert id data) := by
  cases hd : m.demandSound >>= fun _ => m.entity b.entity.id with
  | error e =>
    rw [put_refused store hd] at hput
    cases hput
  | ok e =>
    obtain ⟨hp, he⟩ := MemoryEngine.of_demandSound hd
    exact of_put_of_sound store hp he hput

section

variable (store : Store) {b : Binding} {m : MemoryEngine} {e : ModelEntity}
  {shelf : Shelf b.types} (hp : m.poisoned = false) (he : m.entity b.entity.id = .ok e)
  (h : Stands b (m.rows b.entity.id) shelf)
include hp he h

/-- A record that cannot be encoded is not put, and the id that was handed out for it is taken
back. -/
theorem put_eq {r : Record b.types} {id : UInt64}
    (hid : shelf.idFor? (b.id r) = some id) :
    put MemoryEngine.storage ⟨store, b⟩ r m =
      match b.encode r id with
      | .error e => ((.error (.error (.build e)), r),
          m.setRows b.entity.id (m.rows b.entity.id))
      | .ok data => ((.ok id, b.setId r id), m.setRows b.entity.id
          ⟨(m.rows b.entity.id).entries.insert id data, max shelf.counter id⟩) := by
  rw [← h.nextId?_eq] at hid
  cases henc : b.encode r id with
  | error x => exact put_of_error store hp he hid henc
  | ok data =>
    rw [put_of_encode store hp he hid henc, Rows.insert, h.counter_eq]

/-- What a put that succeeds has encoded and leaves. -/
theorem of_put {r r' : Record b.types} {id : UInt64} {m' : MemoryEngine}
    (hput : put MemoryEngine.storage ⟨store, b⟩ r m = ((.ok id, r'), m')) :
    id ≠ 0 ∧ r' = b.setId r id ∧ ∃ data, b.encode r id = .ok data ∧
      m' = m.setRows b.entity.id
        ⟨(m.rows b.entity.id).entries.insert id data, max shelf.counter id⟩ := by
  obtain ⟨hid, hr, data, henc, hm⟩ := of_put_of_sound store hp he hput
  rw [Rows.insert, h.counter_eq] at hm
  exact ⟨ne_zero_of_nextId? hid, hr, data, henc, hm⟩

theorem get_eq (id : UInt64) :
    get MemoryEngine.storage ⟨store, b⟩ id m = (.ok shelf.records[id]?, m) := by
  have hget := h.decode_getElem? id
  have hrun (next : Option ByteArray → CursorProgram StoreError (Option (Record b.types)))
      (hnext : next (m.rows b.entity.id).entries[id]? = .done (.ok shelf.records[id]?)) :
      (Box.mk store b).run MemoryEngine.storage false (.request (.get id) next) m =
        (.ok shelf.records[id]?, m) :=
    run_request_eq store b false (.get id) next hp he rfl hnext
  refine hrun _ ?_
  cases hr : (m.rows b.entity.id).entries[id]? with
  | none =>
    rw [hr] at hget
    rw [Option.map_eq_none_iff.mp hget.symm]
  | some bytes =>
    rw [hr] at hget
    obtain ⟨r, hshelf, hd⟩ := Option.map_eq_some_iff.mp hget.symm
    simp only [hshelf, ← hd]
    rfl

theorem getAll_eq :
    getAll MemoryEngine.storage ⟨store, b⟩ m = (.ok (shelf.records.toList.map (·.2)), m) := by
  have hnext : (.done ((b.decodeAll (m.rows b.entity.id).buffers).mapError .read) :
      CursorProgram StoreError (List (Record b.types))) =
        .done (.ok (shelf.records.toList.map (·.2))) := by
    rw [h.decodeAll_buffers]
    rfl
  exact run_request_eq store b false .getAll
    (fun buffers => .done ((b.decodeAll buffers).mapError .read)) hp he rfl hnext

theorem contains_eq (id : UInt64) :
    contains MemoryEngine.storage ⟨store, b⟩ id m = (.ok (shelf.records.contains id), m) := by
  rw [← h.contains_eq, Std.ExtTreeMap.contains_eq_isSome_getElem?]
  exact run_request_eq store b false (.get id) (fun found => .done (.ok found.isSome)) hp he rfl
    rfl

theorem count_eq :
    count MemoryEngine.storage ⟨store, b⟩ m = (.ok (UInt64.ofNat shelf.records.size), m) := by
  rw [← h.size_eq]
  exact run_request_eq store b false .count (fun r => .done (.ok r)) hp he rfl rfl

theorem removeId_eq (id : UInt64) :
    removeId MemoryEngine.storage ⟨store, b⟩ id m =
      (.ok (shelf.records.contains id), m.setRows b.entity.id
        ⟨(m.rows b.entity.id).entries.erase id, (m.rows b.entity.id).lastId⟩) := by
  obtain ⟨-, -, -, hrows⟩ :=
    (Cursor.start e m.queries true (m.rows b.entity.id)).frame_discard id
  have hrun := run_request_eq store b true (.remove id) (fun r => .done (.ok r)) hp he rfl rfl
  rw [removeId, CursorProgram.answer, hrun, ← h.contains_eq]
  simp only [if_true, Rows.settled, hrows]
  rfl

theorem removeAll_eq :
    removeAll MemoryEngine.storage ⟨store, b⟩ m =
      (.ok (UInt64.ofNat shelf.records.size), m.setRows b.entity.id
        ⟨∅, (m.rows b.entity.id).lastId⟩) := by
  rw [← h.size_eq, ← Std.ExtTreeMap.length_toList]
  exact run_request_eq store b true .removeAll (fun r => .done (.ok r)) hp he rfl rfl

end

end Box

end RecordStore

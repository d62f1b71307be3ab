import RecordStore.Proofs.Store.Reach

/-! When ids run out: exactly behind the highest one, and not before more were asked for than there
are. -/
namespace RecordStore

namespace Box

variable (store : Store) {b : Binding} {m : MemoryEngine} {e : ModelEntity}
  (hp : m.poisoned = false) (he : m.entity b.entity.id = .ok e)
include hp he

/-- A put overflows exactly if it asks for a new id behind the highest one. -/
theorem put_overflows_iff {r : Record b.types} :
    (∃ o, (put MemoryEngine.storage ⟨store, b⟩ r m).1.1 = .error (.overflow o)) ↔
      b.id r = 0 ∧ (m.rows b.entity.id).lastId = maxId := by
  rw [← nextId?_eq_none]
  cases hid : nextId? (m.rows b.entity.id).lastId (b.id r) with
  | none => simp [put_exhausted store hp he hid]
  | some id =>
    cases henc : b.encode r id with
    | error cause => simp [put_of_error store hp he hid henc]
    | ok data => simp [put_of_encode store hp he hid henc]

variable (hself : m.setRows b.entity.id (m.rows b.entity.id) = m) {n : Nat}
  (hlast : (m.rows b.entity.id).lastId.toNat ≤ n)
include hself hlast

theorem put_within_reach {r : Record b.types} (hreach : raise n (b.id r) ≤ maxId.toNat) :
    (∃ id data m', id ≠ 0 ∧ b.encode r id = .ok data ∧
      put MemoryEngine.storage ⟨store, b⟩ r m = ((.ok id, b.setId r id), m') ∧
        (m'.rows b.entity.id).entries[id]? = some data) ∨
      ∃ x, put MemoryEngine.storage ⟨store, b⟩ r m = ((.error (.error x), r), m) := by
  cases hid : nextId? (m.rows b.entity.id).lastId (b.id r) with
  | none =>
    have hlt := Nat.lt_of_lt_of_le (lt_raise_of_nextId? hid) (raise_mono hlast (b.id r))
    exact absurd hreach (Nat.not_le_of_lt hlt)
  | some id =>
    cases henc : b.encode r id with
    | error cause =>
      right
      rw [put_of_error store hp he hid henc, hself]
      exact ⟨_, rfl⟩
    | ok data =>
      refine .inl ⟨id, data, _, ne_zero_of_nextId? hid, henc,
        put_of_encode store hp he hid henc, ?_⟩
      rw [m.rows_setRows]
      exact Std.ExtTreeMap.getElem?_insert_self

theorem putAll_within_reach {rs : List (Record b.types)}
    (hreach : reach n (rs.map b.id) ≤ maxId.toNat) :
    (∃ ids m', ids.length = rs.length ∧
      putAll MemoryEngine.storage ⟨store, b⟩ rs m = ((.ok ids, List.zipWith b.setId rs ids), m') ∧
        ∀ id ∈ ids, id ≠ 0 ∧ id ∈ (m'.rows b.entity.id).entries) ∨
      ∃ x, putAll MemoryEngine.storage ⟨store, b⟩ rs m = ((.error (.error x), rs), m) := by
  rcases Puts.exists_puts b (m.rows b.entity.id) rs with
    ⟨ids, rows, hputs⟩ | ⟨before, r, after, ids, rows, rfl, hputs, hid | ⟨id, cause, hid, henc⟩⟩
  · obtain ⟨-, hlen, hids⟩ := hputs.mem_entries
    refine .inl ⟨ids, _, hlen, putAll_of_puts store hp he hputs, ?_⟩
    rw [m.rows_setRows]
    exact hids
  · have hlt := Nat.lt_of_lt_of_le (hputs.lt_reach hid after) (reach_mono hlast _)
    exact absurd hreach (Nat.not_le_of_lt hlt)
  · right
    rw [putAll_of_error store hp he after hputs hid henc, hself]
    exact ⟨_, rfl⟩

end Box

/-- Whatever was called on a store of generated bindings in which the slots of the properties are
their places, a record that asks for a new id is stored under one, or an error is answered and
nothing has changed, alone and among others, as long as no more ids are asked for than there are. An
overflow hits exactly if a new id is asked for behind the highest one. -/
theorem ids_suffice_within_reach {bindings : List Binding} {last : Option IdUid} {model : Model}
    (hg : ∀ b ∈ bindings, b.Generated) (ha : ∀ b ∈ bindings, b.entity.Assembled)
    (hm : Binding.Builds bindings last model) (store : Store) {calls : List ClientCall}
    (hon : ∀ call ∈ calls, call.On bindings) {b : Binding} (hb : b ∈ bindings) :
    let m := (Client.run store ⟨.opened model, []⟩ calls).engine
    let asked := Client.askedBy calls b.entity.id
    let box : Box := ⟨store, b⟩
    (∀ r : Record b.types, reach 0 (asked ++ [b.id r]) ≤ maxId.toNat →
      (∃ id data m', id ≠ 0 ∧ b.encode r id = .ok data ∧
        box.put MemoryEngine.storage r m = ((.ok id, b.setId r id), m') ∧
          (m'.rows b.entity.id).entries[id]? = some data) ∨
      ∃ e, box.put MemoryEngine.storage r m = ((.error (.error e), r), m)) ∧
    (∀ rs : List (Record b.types), reach 0 (asked ++ rs.map b.id) ≤ maxId.toNat →
      (∃ ids m', ids.length = rs.length ∧
        box.putAll MemoryEngine.storage rs m = ((.ok ids, List.zipWith b.setId rs ids), m') ∧
          ∀ id ∈ ids, id ≠ 0 ∧ id ∈ (m'.rows b.entity.id).entries) ∨
      ∃ e, box.putAll MemoryEngine.storage rs m = ((.error (.error e), rs), m)) ∧
    ∀ r : Record b.types, (∃ o, (box.put MemoryEngine.storage r m).1.1 = .error (.overflow o)) ↔
      m.poisoned = false ∧ b.id r = 0 ∧ (m.rows b.entity.id).lastId = maxId := by
  intro m asked box
  have hnumbered : m.Numbered model :=
    Client.numbered_run store (MemoryEngine.numbered_opened model) calls
  have he := hnumbered.entity_eq (hm.entity?_eq hb)
  have hself := hnumbered.setRows_self (hm.entity?_eq hb)
  cases hp : m.poisoned with
  | true =>
    have hd := MemoryEngine.demandSound_of_poisoned hp b.entity.id
    refine ⟨fun r _ => .inr ⟨_, Box.put_refused store hd r⟩,
      fun rs _ => .inr ⟨_, Box.putAll_refused store hd rs⟩, fun r => ?_⟩
    simp only [box, Box.put_refused store hd r]
    simp
  | false =>
    have hlast : (m.rows b.entity.id).lastId.toNat ≤ reach 0 asked :=
      Client.toNat_lastId_le hg ha hm store hon hp
    refine ⟨fun r hr => ?_, fun rs hrs => ?_, fun r => ?_⟩
    · rw [reach_append] at hr
      exact Box.put_within_reach store hp he hself hlast hr
    · rw [reach_append] at hrs
      exact Box.putAll_within_reach store hp he hself hlast hrs
    · rw [Box.put_overflows_iff store hp he]
      simp

theorem ids_suffice_within_reach_note :
    ∃ (b : Binding) (model : Model) (r : Record b.types) (data : ByteArray) (m : MemoryEngine),
      Binding.ofEntity Schema.note = .ok b ∧ b.id r = 0 ∧
        Box.put MemoryEngine.storage ⟨⟨model, false⟩, b⟩ r
          (Client.run ⟨model, false⟩ ⟨.opened model, []⟩ [.box ⟨b, .put r⟩]).engine =
            ((.ok 2, b.setId r 2), m) ∧
        (m.rows b.entity.id).entries[(2 : UInt64)]? = some data := by
  obtain ⟨b, model, hb, hg, ha, hm, hcheck⟩ := Schema.exists_note_model
    (fun b model => b.types = Schema.faint.map Value.type ∧
      ∀ ht : Schema.faint.map Value.type = b.types,
        let calls : List ClientCall := [.box ⟨b, .put ⟨Schema.faint, ht⟩⟩]
        b.id ⟨Schema.faint, ht⟩ = 0 ∧
          reach 0 (Client.askedBy calls b.entity.id ++ [b.id ⟨Schema.faint, ht⟩]) ≤ maxId.toNat ∧
          (Box.put MemoryEngine.storage ⟨⟨model, false⟩, b⟩ ⟨Schema.faint, ht⟩
            (Client.run ⟨model, false⟩ ⟨.opened model, []⟩ calls).engine).1.1 = .ok 2)
    (by decide +kernel)
  obtain ⟨ht, hrun⟩ := of_decide_eq_true hcheck
  obtain ⟨hzero, hreach, hput⟩ := hrun ht.symm
  obtain ⟨h, -⟩ := ids_suffice_within_reach (by simpa using hg) (by simpa using ha) hm
    ⟨model, false⟩ (show ∀ call ∈ [ClientCall.box ⟨b, .put ⟨Schema.faint, ht.symm⟩⟩], call.On [b] by
      simp [ClientCall.On]) List.mem_cons_self
  rcases h ⟨Schema.faint, ht.symm⟩ hreach with ⟨id, data, m, -, -, hstored, hrow⟩ | ⟨e, herror⟩
  · rw [hstored] at hput
    cases hput
    exact ⟨b, model, _, data, m, hb, hzero, hstored, hrow⟩
  · rw [herror] at hput
    cases hput

/-- A note under the highest id. -/
def Schema.highest : List Value := [.u64 maxId, .text "a", .f64 ⟨0⟩]

/-- Behind a note under the highest id, putting a new one overflows, and nothing can be done with
the store from then on. -/
theorem ids_run_out_note :
    ∃ (b : Binding) (model : Model) (highest fresh : Record b.types), b.Generated ∧
      b.entity.Assembled ∧ Binding.Builds [b] none model ∧ b.id highest = maxId ∧ b.id fresh = 0 ∧
        let m := (Client.run ⟨model, false⟩ ⟨.opened model, []⟩ [.box ⟨b, .put highest⟩]).engine
        let after := Box.put MemoryEngine.storage ⟨⟨model, false⟩, b⟩ fresh m
        (Box.count MemoryEngine.storage ⟨⟨model, false⟩, b⟩ m).1 = .ok 1 ∧
          after.1.1 = .error (.overflow .addition) ∧
          (Box.count MemoryEngine.storage ⟨⟨model, false⟩, b⟩ after.2).1 =
            .error (.error (.engine .poisoned)) := by
  obtain ⟨b, model, -, hg, ha, hm, hcheck⟩ := Schema.exists_note_model
    (fun b model => b.types = Schema.faint.map Value.type ∧
      ∀ ht : Schema.faint.map Value.type = b.types,
        b.id ⟨Schema.highest, ht⟩ = maxId ∧ b.id ⟨Schema.faint, ht⟩ = 0 ∧
          let m := (Client.run ⟨model, false⟩ ⟨.opened model, []⟩
            [.box ⟨b, .put ⟨Schema.highest, ht⟩⟩]).engine
          let after := Box.put MemoryEngine.storage ⟨⟨model, false⟩, b⟩ ⟨Schema.faint, ht⟩ m
          (Box.count MemoryEngine.storage ⟨⟨model, false⟩, b⟩ m).1 = .ok 1 ∧
            after.1.1 = .error (.overflow .addition) ∧
            (Box.count MemoryEngine.storage ⟨⟨model, false⟩, b⟩ after.2).1 =
              .error (.error (.engine .poisoned)))
    (by decide +kernel)
  obtain ⟨ht, hrun⟩ := of_decide_eq_true hcheck
  exact ⟨b, model, ⟨Schema.highest, ht.symm⟩, ⟨Schema.faint, ht.symm⟩, hg, ha, hm,
    hrun ht.symm⟩

end RecordStore

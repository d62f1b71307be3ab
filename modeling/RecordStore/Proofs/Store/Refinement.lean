import RecordStore.Proofs.Model.Entities
import RecordStore.Proofs.Schema.RoundTrip
import RecordStore.Proofs.Store.Calls

/-! Boxes over the engine in memory answer what shelves of records answer. -/
namespace RecordStore

namespace Binding

/-- The binding belongs to an entity of a schema that source was generated for. -/
def Generated (b : Binding) : Prop :=
  ∃ (s : Schema) (config : Config) (source : GeneratedSource), s.generate config = .ok source ∧
    ∃ e ∈ s.entities, ofEntity e = .ok b

theorem Generated.wellFormed {b : Binding} (h : b.Generated) (ha : b.entity.Assembled) :
    b.WellFormed := by
  obtain ⟨s, config, source, hg, e, he, hb⟩ := h
  rw [(of_ofEntity hb).1] at ha
  obtain ⟨b', hb', hwf⟩ := Schema.exists_binding hg he ha
  rw [hb] at hb'
  cases hb'
  exact hwf

end Binding

/-- Whether the binding of the entity builds a model of its own, and the two pass a check. -/
def Entity.passes (e : Entity) (check : Binding → Model → Bool) : Bool :=
  (Binding.ofEntity e).toOption.all fun b =>
    let (answer, builder) := ModelBuilder.empty.applyAll (Binding.modelCallsOf [b] none)
    answer = .ok () ∧ builder.build.toOption.any (check b)

namespace Schema

variable {s : Schema} {config : Config} {source : GeneratedSource} {e : Entity}

/-- An entity of a schema with generated source has a binding, and a model of its own, that pass
whatever check their evaluation passes. -/
theorem exists_model_of_generate (hg : s.generate config = .ok source) (he : e ∈ s.entities)
    (check : Binding → Model → Bool) (hcheck : e.passes check = true) :
    ∃ b model, Binding.ofEntity e = .ok b ∧ b.Generated ∧ Binding.Builds [b] none model ∧
      check b model = true := by
  obtain ⟨b, hb⟩ := exists_ofEntity hg he
  rw [Entity.passes, hb] at hcheck
  obtain ⟨happly, hany⟩ := of_decide_eq_true hcheck
  obtain ⟨model, hbuild, hmodel⟩ := (Option.any_eq_true ..).mp hany
  exact ⟨b, model, hb, ⟨s, config, source, hg, e, he, hb⟩,
    ⟨_, Prod.ext happly rfl, of_toOption hbuild⟩, hmodel⟩

theorem exists_model (ha : s.Assembled) (hg : s.generate config = .ok source)
    (he : e ∈ s.entities) (check : Binding → Model → Bool) (hcheck : e.passes check = true) :
    ∃ b model, Binding.ofEntity e = .ok b ∧ b.Generated ∧ b.entity.Assembled ∧
      Binding.Builds [b] none model ∧ check b model = true := by
  obtain ⟨b, model, hb, hgenerated, hm, hmodel⟩ := exists_model_of_generate hg he check hcheck
  exact ⟨b, model, hb, hgenerated, (Binding.of_ofEntity hb).1 ▸ ha e he, hm, hmodel⟩

theorem exists_note_model (check : Binding → Model → Bool) (hcheck : note.passes check = true) :
    ∃ b model, Binding.ofEntity note = .ok b ∧ b.Generated ∧ b.entity.Assembled ∧
      Binding.Builds [b] none model ∧ check b model = true := by
  obtain ⟨source, hg⟩ := exists_generate_noteSchema
  have hmem : note ∈ noteSchema.entities := by simp [noteSchema]
  exact exists_model built_noteSchema.assembled hg hmem check hcheck

end Schema

/-- The engine holds for each binding what its shelf holds. -/
structure Represents (bindings : List Binding) (m : MemoryEngine) (s : Shelves) : Prop where
  sound : m.poisoned = false
  distinct : (bindings.map fun b => b.entity.id).Nodup
  wellFormed : ∀ b ∈ bindings, b.WellFormed
  entity : ∀ b ∈ bindings, ∃ e, m.entity b.entity.id = .ok e
  stands : ∀ b ∈ bindings, Stands b (m.rows b.entity.id) (s b)

namespace Represents

variable {bindings : List Binding} {m : MemoryEngine} {s : Shelves} {b : Binding}

theorem setRows (h : Represents bindings m s) (hb : b ∈ bindings) {rows : Rows}
    {shelf : Shelf b.types} (hs : Stands b rows shelf) :
    Represents bindings (m.setRows b.entity.id rows) (Function.update s b shelf) := by
  refine ⟨h.sound, h.distinct, h.wellFormed, h.entity, ?_⟩
  intro other ho
  by_cases hsame : other = b
  · subst hsame
    rw [MemoryEngine.rows_setRows, Function.update_self]
    exact hs
  · have hid : other.entity.id ≠ b.entity.id := fun e =>
      hsame (List.inj_on_of_nodup_map h.distinct ho hb e)
    rw [MemoryEngine.rows_setRows_of_ne hid, Function.update_of_ne hsame]
    exact h.stands other ho

theorem self (h : Represents bindings m s) (b : Binding) :
    Represents bindings m (Function.update s b (s b)) := by
  rw [Function.update_eq_self]
  exact h

theorem put (h : Represents bindings m s) (hb : b ∈ bindings) (store : Store) {r : Record b.types}
    {reply : StoreAttempt UInt64 × Record b.types} {shelf : Shelf b.types}
    (hput : (s b).put r = some (reply, shelf)) :
    ∃ m', Box.put MemoryEngine.storage ⟨store, b⟩ r m = (reply, m') ∧
      Represents bindings m' (Function.update s b shelf) := by
  obtain ⟨e, he⟩ := h.entity b hb
  obtain ⟨id, hid, hput⟩ := Option.map_eq_some_iff.mp hput
  have hbox := Box.put_eq store h.sound he (h.stands b hb) hid
  cases henc : b.encode r id with
  | error x =>
    rw [henc] at hput hbox
    cases hput
    exact ⟨_, hbox, h.setRows hb (h.stands b hb)⟩
  | ok data =>
    rw [henc] at hput hbox
    cases hput
    have hd := Binding.decode_of_encode (h.wellFormed b hb) henc
    exact ⟨_, hbox, h.setRows hb ((h.stands b hb).insert hd id _)⟩

theorem removeId (h : Represents bindings m s) (hb : b ∈ bindings) (store : Store) (id : UInt64) :
    ∃ m', Box.removeId MemoryEngine.storage ⟨store, b⟩ id m = (((s b).removeId id).1, m') ∧
      Represents bindings m' (Function.update s b ((s b).removeId id).2) := by
  obtain ⟨e, he⟩ := h.entity b hb
  exact ⟨_, Box.removeId_eq store h.sound he (h.stands b hb) id,
    h.setRows hb ((h.stands b hb).erase id)⟩

/-- An engine answers a call as the shelf of its binding does, and goes on to hold what the shelf
holds then. -/
theorem step (h : Represents bindings m s) (store : Store) {call : Call} (hb : call.1 ∈ bindings)
    {reply : call.2.Reply} {shelf : Shelf call.1.types}
    (hshelf : (s call.1).step call.2 = some (reply, shelf)) :
    ∃ m', store.perform m call = (reply, m') ∧
      Represents bindings m' (Function.update s call.1 shelf) := by
  obtain ⟨b, call⟩ := call
  obtain ⟨e, he⟩ := h.entity b hb
  have hs := h.stands b hb
  cases call with
  | put r => exact h.put hb store hshelf
  | get id =>
    cases hshelf
    exact ⟨m, Box.get_eq store h.sound he hs id, h.self b⟩
  | getAll =>
    cases hshelf
    exact ⟨m, Box.getAll_eq store h.sound he hs, h.self b⟩
  | contains id =>
    cases hshelf
    exact ⟨m, Box.contains_eq store h.sound he hs id, h.self b⟩
  | count =>
    cases hshelf
    exact ⟨m, Box.count_eq store h.sound he hs, h.self b⟩
  | remove r =>
    cases hshelf
    exact h.removeId hb store (b.id r)
  | removeId id =>
    cases hshelf
    exact h.removeId hb store id
  | removeAll =>
    cases hshelf
    exact ⟨_, Box.removeAll_eq store h.sound he hs, h.setRows hb hs.clear⟩

/-- An engine answers calls in order as the shelves do. -/
theorem run (h : Represents bindings m s) (store : Store) {calls : List Call}
    {answers : List Answer} (hb : ∀ call ∈ calls, call.1 ∈ bindings)
    (hrun : s.run calls = some answers) : store.performAll m calls = answers := by
  induction calls generalizing m s answers with
  | nil =>
    cases hrun
    rfl
  | cons call calls ih =>
    obtain ⟨reply, shelf, rest, hstep, hrest, rfl⟩ := Shelves.run_cons_eq_some.mp hrun
    obtain ⟨m', hm, h'⟩ := h.step store (hb call List.mem_cons_self) hstep
    have hrest' := ih h' (fun c hc => hb c (List.mem_cons_of_mem _ hc)) hrest
    rw [Store.performAll, hm, ← hrest']

end Represents

namespace MemoryEngine

/-- The engine that has just taken a model. -/
def opened (model : Model) : MemoryEngine :=
  { MemoryEngine.new with
    model := some model
    tables := model.entities.foldl (fun tables e => tables.insert e.id .empty) ∅ }

theorem rows_opened (model : Model) (id : UInt32) : (opened model).rows id = .empty := by
  have hfold (entities : List ModelEntity) (tables : Std.ExtTreeMap UInt32 Rows)
      (ht : tables.getD id .empty = .empty) :
      (entities.foldl (fun tables e => tables.insert e.id .empty) tables).getD id .empty =
        .empty := by
    induction entities generalizing tables with
    | nil => exact ht
    | cons e entities ih =>
      apply ih
      rw [Std.ExtTreeMap.getD_insert]
      split
      · rfl
      · exact ht
  rw [rows, opened]
  simp only [← Array.foldl_toList]
  exact hfold _ _ (by simp)

theorem entity_opened {model : Model} {id : UInt32} {e : ModelEntity}
    (h : model.entity? id = some e) : (opened model).entity id = .ok e := by
  rw [entity, opened]
  simp only [h]

theorem numbered_opened (model : Model) : (opened model).Numbered model := by
  have hfold (entities : List ModelEntity) (tables : Std.ExtTreeMap UInt32 Rows) (id : UInt32)
      (ht : id ∈ tables ∨ ∃ e ∈ entities, e.id = id) :
      id ∈ entities.foldl (fun tables e => tables.insert e.id .empty) tables := by
    induction entities generalizing tables with
    | nil => simpa using ht
    | cons e entities ih =>
      apply ih
      rw [Std.ExtTreeMap.mem_insert]
      rcases ht with ht | ⟨e', he', rfl⟩
      · exact .inl (.inr ht)
      · rcases List.mem_cons.mp he' with rfl | hrest
        · exact .inl (.inl (Std.ReflOrd.compare_self))
        · exact .inr ⟨e', hrest, rfl⟩
  refine ⟨rfl, ?_, ?_⟩
  · intro id e he
    rw [opened]
    simp only [← Array.foldl_toList]
    refine hfold _ _ _ (.inr ⟨e, ?_, by simpa using Array.find?_some he⟩)
    exact Array.mem_def.mp (Array.mem_of_find?_eq_some he)
  · intro id
    rw [rows_opened]
    exact Rows.numbered_empty

end MemoryEngine

/-- An engine that has just been opened holds no records. -/
theorem represents_opened {bindings : List Binding} {last : Option IdUid} {model : Model}
    (hg : ∀ b ∈ bindings, b.Generated) (ha : ∀ b ∈ bindings, b.entity.Assembled)
    (hm : Binding.Builds bindings last model) : Represents bindings (.opened model) .empty := by
  obtain ⟨hnodup, hentity⟩ := Binding.of_builds hm
  refine ⟨rfl, hnodup, fun b hb => (hg b hb).wellFormed (ha b hb), ?_, ?_⟩
  · intro b hb
    obtain ⟨e, he⟩ := hentity b hb
    exact ⟨e, MemoryEngine.entity_opened he⟩
  · intro b hb
    rw [MemoryEngine.rows_opened]
    exact .empty b

/-- The boxes of a store over a new engine answer calls in any order as shelves do, if source was
generated for their entities and the slots of the properties are their places. Calls on one box
answer as if there were no others, and what is got from it carries the id asked for. -/
theorem boxes_refine_shelves {bindings : List Binding} {last : Option IdUid} {model : Model}
    (hg : ∀ b ∈ bindings, b.Generated) (ha : ∀ b ∈ bindings, b.entity.Assembled)
    (hm : Binding.Builds bindings last model) (debug : Bool) :
    ∃ store engine, MemoryEngine.storage.openStore (some model) debug .new = (.ok store, engine) ∧
      (∀ b ∈ bindings, store.box b = .ok ⟨store, b⟩) ∧
      ∀ (calls : List Call) (answers : List Answer), (∀ call ∈ calls, call.1 ∈ bindings) →
        Shelves.empty.run calls = some answers →
          store.performAll engine calls = answers ∧
          (∀ b, store.performAll engine (calls.filter fun call => call.1 = b) =
            answers.filter fun answer => answer.1.1 = b) ∧
          ∀ b ∈ bindings, ∀ (id : UInt64) (r : Record b.types),
            ⟨⟨b, .get id⟩, .ok (some r)⟩ ∈ answers → b.id r = id ∧ r.normalized = r := by
  have hrep := represents_opened hg ha hm
  refine ⟨⟨model, debug⟩, .opened model, rfl, ?_, ?_⟩
  · intro b hb
    obtain ⟨e, he⟩ := (Binding.of_builds hm).2 b hb
    rw [Store.box, he]
    rfl
  · intro calls answers hcalls hrun
    refine ⟨hrep.run _ hcalls hrun, ?_, ?_⟩
    · intro b
      exact hrep.run _ (fun call hc => hcalls call (List.mem_of_mem_filter hc))
        (Shelves.run_filter rfl hrun)
    · intro b hb id r hget
      refine Shelves.labelled_of_get ((hg b hb).wellFormed (ha b hb)) hrun ?_ hget
      intro k stored hk
      simp [Shelves.empty] at hk

theorem boxes_refine_shelves_note :
    ∃ (b : Binding) (r : Record b.types), Binding.ofEntity Schema.note = .ok b ∧
      r.values = Schema.faint ∧ ∃ model store engine,
        MemoryEngine.storage.openStore (some model) false .new = (.ok store, engine) ∧
          store.performAll engine [⟨b, .put r⟩, ⟨b, .get 1⟩] =
            [⟨⟨b, .put r⟩, .ok 1, b.setId r 1⟩,
              ⟨⟨b, .get 1⟩, .ok (some (b.setId r 1).normalized)⟩] := by
  obtain ⟨b, model, hb, hgenerated, ha, hm, hcheck⟩ := Schema.exists_note_model
    (fun b _ => ∃ typed : Schema.faint.map Value.type = b.types,
      b.id ⟨Schema.faint, typed⟩ = 0 ∧ (b.encode ⟨Schema.faint, typed⟩ 1).toOption.isSome)
    (by decide +kernel)
  obtain ⟨typed, hid, hencode⟩ := of_decide_eq_true hcheck
  obtain ⟨bytes, he⟩ := exists_ok hencode
  have hrun : Shelves.empty.run [⟨b, .put ⟨Schema.faint, typed⟩⟩, ⟨b, .get 1⟩] =
      some [⟨⟨b, .put ⟨Schema.faint, typed⟩⟩, .ok 1, b.setId ⟨Schema.faint, typed⟩ 1⟩,
        ⟨⟨b, .get 1⟩, .ok (some (b.setId ⟨Schema.faint, typed⟩ 1).normalized)⟩] := by
    simp [Shelves.run, Shelves.step, Shelf.step, Shelf.put, Shelf.idFor?, hid, he, Shelves.empty,
      maxId]
  obtain ⟨store, engine, hopen, -, h⟩ := @boxes_refine_shelves [b] none model
    (by simpa using hgenerated) (by simpa using ha) hm false
  exact ⟨b, ⟨Schema.faint, typed⟩, hb, rfl, model, store, engine, hopen, (h _ _ (by simp) hrun).1⟩

namespace Schema

/-- Stamps, whose properties were set as they are and never pushed: both have the first slot. -/
def stamp : Entity where
  id := 1
  uid := 1000
  name := "Stamp"
  properties := #[Samples.property 1 1001 "mark" .char,
    (Samples.property 2 1002 "id" .u64).withFlags .identifier]
  identifier := some 1
  lastPropertyId := ⟨2, 1002⟩

def stampSchema : Schema := ⟨#[stamp], ⟨1, 1000⟩⟩

theorem exists_stamp_model (check : Binding → Model → Bool) (hcheck : stamp.passes check = true) :
    ∃ b model, b.Generated ∧ b.entity = stamp ∧ Binding.Builds [b] none model ∧
      check b model = true := by
  obtain ⟨source, hg⟩ : ∃ source, stampSchema.generate {} = .ok source :=
    exists_ok (by decide +kernel)
  have hmem : stamp ∈ stampSchema.entities := by simp [stampSchema]
  obtain ⟨b, model, hb, hgenerated, hm, hmodel⟩ := exists_model_of_generate hg hmem check hcheck
  exact ⟨b, model, hgenerated, (Binding.of_ofEntity hb).1, hm, hmodel⟩

end Schema

/-- A stamp without a mark and without an id. -/
def unmarked : List Value := [.char '\x00', .u64 0]

/-- A stamp is put without a mark, and is got with its id for one. -/
theorem boxes_miss_shelves_stamp :
    ∃ (b : Binding) (model : Model), b.Generated ∧ b.entity = Schema.stamp ∧
      Binding.Builds [b] none model ∧ ∃ typed : unmarked.map Value.type = b.types,
        let calls : List Call := [⟨b, .put ⟨unmarked, typed⟩⟩, ⟨b, .get 1⟩]
        ∃ put stored got, Shelves.empty.run calls = some [put, ⟨⟨b, .get 1⟩, .ok (some stored)⟩] ∧
          Store.performAll ⟨model, false⟩ (.opened model) calls =
            [put, ⟨⟨b, .get 1⟩, .ok (some got)⟩] ∧
          stored.values = [.char '\x00', .u64 1] ∧ got.values = [.char '\x01', .u64 1] := by
  obtain ⟨b, model, hgenerated, he, hm, hcheck⟩ := Schema.exists_stamp_model
    (fun b model => ∃ typed : unmarked.map Value.type = b.types,
      let r : Record b.types := ⟨unmarked, typed⟩
      let put := Box.put MemoryEngine.storage ⟨⟨model, false⟩, b⟩ r (.opened model)
      b.id r = 0 ∧ (b.encode r 1).toOption.isSome ∧ put.1 = (.ok 1, b.setId r 1) ∧
        (b.setId r 1).normalized.values = [.char '\x00', .u64 1] ∧
        ∃ marked : [Value.char '\x01', .u64 1].map Value.type = b.types,
          (Box.get MemoryEngine.storage ⟨⟨model, false⟩, b⟩ 1 put.2).1 = .ok (some ⟨_, marked⟩))
    (by decide +kernel)
  obtain ⟨typed, hid, hencode, hput, hstored, marked, hget⟩ := of_decide_eq_true hcheck
  obtain ⟨bytes, hbytes⟩ := exists_ok hencode
  refine ⟨b, model, hgenerated, he, hm, typed, ?_⟩
  intro calls
  refine ⟨⟨⟨b, .put ⟨unmarked, typed⟩⟩, .ok 1, b.setId ⟨unmarked, typed⟩ 1⟩, _,
    ⟨[.char '\x01', .u64 1], marked⟩, ?_, ?_, hstored, rfl⟩
  · simp [calls, Shelves.run, Shelves.step, Shelf.step, Shelf.put, Shelf.idFor?, hid, hbytes,
      Shelves.empty, maxId]
  · rw [← hput, ← hget]
    rfl

end RecordStore

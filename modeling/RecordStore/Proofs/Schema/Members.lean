import Mathlib.Logic.Relation
import RecordStore.Proofs.Json.Readers
import RecordStore.Schema.Load

/-! What the members of the written form of a schema count for: the known ones by their names, the
others not at all. -/
namespace RecordStore.Schema

open Json

/-- The part that a value plays in the written form. -/
inductive Role
  | schema
  | entities
  | entity
  | properties
  | property
  | other
  deriving DecidableEq, Repr

namespace Role

/-- The names of the members that count, in the order of the form without names. -/
def keys : Role → List String
  | schema => ["lastEntityId", "entities"]
  | entity => ["id", "name", "lastPropertyId", "properties"]
  | property => ["id", "name", "type", "storeName", "storeType", "bufferKind", "flags"]
  | entities | properties | other => []

/-- The names of the members that may be null. -/
def nullable : Role → List String
  | property => ["storeName", "storeType", "bufferKind", "flags"]
  | schema | entity | entities | properties | other => []

/-- The part that the value of a member plays. -/
def member : Role → Except Json.Error String → Role
  | schema, .ok "entities" => entities
  | entity, .ok "properties" => properties
  | _, _ => other

/-- The part that an item of an array plays. -/
def item : Role → Nat → Role
  | entities, _ => entity
  | properties, _ => property
  | r, i => (r.keys[i]?).elim other fun key => r.member (.ok key)

theorem item_of_key {r : Role} {i : Nat} {key : String} (h : r.keys[i]? = some key) :
    r.item i = r.member (.ok key) := by
  cases r with
  | entities => cases h
  | properties => cases h
  | _ => rw [item, h] <;> simp

end Role

/-- One change to the members of one object, in a value that plays a part. Members come in front;
others can then change places with them. -/
inductive Edited : Role → Json.Value → Json.Value → Prop
  /-- Members change places. -/
  | reorder {r : Role} {ms ns : List Member} : ms.Perm ns →
      Edited r (.object ms none) (.object ns none)
  /-- A member more, with a name that does not count and any value that can be written. -/
  | unknown {r : Role} {key : String} {v : Json.Value} {ms : List Member} :
      r.keys ≠ [] → key ∉ r.keys → v.Writable →
      Edited r (.object ms none) (.object (.pair (.ok key) v :: ms) none)
  /-- A member that was missing is null. -/
  | null {r : Role} {key : String} {ms : List Member} : key ∈ r.nullable →
      (∀ v, Member.pair (.ok key) v ∉ ms) →
      Edited r (.object ms none) (.object (.pair (.ok key) .null :: ms) none)
  /-- An item is changed. -/
  | item {r : Role} {v w : Json.Value} {before after : List Json.Value} :
      Edited (r.item before.length) v w →
      Edited r (.array (before ++ v :: after) none) (.array (before ++ w :: after) none)
  /-- The value of a member is changed. -/
  | value {r : Role} {key : Except Json.Error String} {v w : Json.Value}
      {before after : List Member} : Edited (r.member key) v w →
      Edited r (.object (before ++ .pair key v :: after) none)
        (.object (before ++ .pair key w :: after) none)

variable {r : Role} {v w : Json.Value}

namespace Edited

/-- A value without faults stays one. -/
theorem skip (h : Edited r v w) (hskip : v.skip = .ok ()) : w.skip = .ok () := by
  induction h with
  | reorder hp =>
    rw [Json.Value.skip_object, Json.Value.skipMembers_eq_ok] at hskip ⊢
    exact ⟨fun m hm => hskip.1 m (hp.mem_iff.mpr hm), rfl⟩
  | unknown _ _ hv =>
    obtain ⟨s, hs⟩ := hv
    rw [Json.Value.skip_object] at hskip ⊢
    exact ⟨bind_eq_ok.mpr ⟨(), hs.skip, hskip.1⟩, rfl⟩
  | null => exact hskip
  | item _ ih =>
    rw [Json.Value.skip_array, Json.Value.skipItems_eq_ok, List.forall_mem_append,
      List.forall_mem_cons] at hskip ⊢
    exact ⟨⟨hskip.1.1, ih hskip.1.2.1, hskip.1.2.2⟩, rfl⟩
  | value _ ih =>
    rw [Json.Value.skip_object, Json.Value.skipMembers_eq_ok, List.forall_mem_append,
      List.forall_mem_cons] at hskip ⊢
    obtain ⟨⟨hbefore, ⟨key, v, he, hv⟩, hafter⟩, -⟩ := hskip
    cases he
    exact ⟨⟨hbefore, ⟨_, _, rfl, ih hv⟩, hafter⟩, rfl⟩

/-- What has a text still has one. -/
theorem writable (h : Edited r v w) (hv : v.Writable) : w.Writable := by
  induction h with
  | reorder hp =>
    rw [Json.Value.writable_object] at hv ⊢
    exact fun m hm => hv m (hp.mem_iff.mpr hm)
  | unknown _ _ hnew =>
    rw [Json.Value.writable_object] at hv ⊢
    exact List.forall_mem_cons.mpr
      ⟨exists_memberWritten_iff.mpr ⟨exists_stringWritten _, hnew⟩, hv⟩
  | null =>
    rw [Json.Value.writable_object] at hv ⊢
    exact List.forall_mem_cons.mpr
      ⟨exists_memberWritten_iff.mpr ⟨exists_stringWritten _, _, .null⟩, hv⟩
  | item _ ih =>
    rw [Json.Value.writable_array, List.forall_mem_append, List.forall_mem_cons] at hv ⊢
    exact ⟨hv.1, ih hv.2.1, hv.2.2⟩
  | value _ ih =>
    rw [Json.Value.writable_object, List.forall_mem_append, List.forall_mem_cons,
      exists_memberWritten_iff] at hv ⊢
    exact ⟨hv.1, ⟨hv.2.1.1, ih hv.2.1.2⟩, hv.2.2⟩

end Edited

/-- What is read of a value is still read of it after a change in the part that it plays. -/
def Keeps {α : Type} (r : Role) (read : Json.Value → Outcome α) : Prop :=
  ∀ ⦃v w a⦄, Edited r v w → read v = .ok a → read w = .ok a

section

variable {α : Type}

theorem keeps_parsedText (parse : String → Except String α) :
    Keeps r (Json.Value.parsedText parse) := by
  intro v w a h hread
  obtain ⟨t, ht, -⟩ := bind_eq_ok.mp hread
  rw [Json.Value.text_eq_ok.mp ht] at h
  cases h

theorem keeps_text : Keeps r Json.Value.text := by
  intro v w a h hread
  rw [Json.Value.text_eq_ok.mp hread] at h
  cases h

theorem keeps_word32 : Keeps r Json.Value.word32 := by
  intro v w a h hread
  obtain ⟨m, rfl⟩ := Json.Value.exists_number_of_word32 hread
  cases h

/-- Null is not changed. -/
theorem Edited.of_null (h : Edited r .null w) : False := by
  cases h

/-- A name stays as it is written. -/
theorem keeps_choice (choices : List (String × α)) : Keeps .other (Json.Value.choice choices) := by
  intro v w a h hread
  rcases Json.Value.choice_cases hread with ⟨text, rfl⟩ | ⟨key, rfl⟩
  · cases h
  generalize hone : [Member.pair key .null] = members at h hread
  cases h with
  | reorder hp =>
    rw [← hone, List.singleton_perm] at hp
    rwa [← hp, hone]
  | unknown hkeys => exact absurd rfl hkeys
  | null hkey => cases hkey
  | value hv =>
    rw [List.singleton_eq_append_iff] at hone
    rcases hone with ⟨-, hone⟩ | ⟨-, hone⟩
    · cases hone
      exact hv.of_null.elim
    · cases hone

theorem keeps_optional {read : Json.Value → Outcome α} (hread : Keeps r read) :
    Keeps r (Json.Value.optional read) := by
  have hsome {v : Json.Value} (hv : v ≠ .null) :
      Json.Value.optional read v = (do return some (← read v)) := by
    cases v with
    | null => exact absurd rfl hv
    | _ => rfl
  intro v w a h ha
  have hv : v ≠ .null := by
    rintro rfl
    exact h.of_null
  have hw : w ≠ .null := by
    rintro rfl
    cases h
  rw [hsome hv] at ha
  rw [hsome hw]
  obtain ⟨x, hx, ha⟩ := bind_eq_ok.mp ha
  exact bind_eq_ok.mpr ⟨x, hread h hx, ha⟩

theorem keeps_list {read : Json.Value → Outcome α} (hread : ∀ i, Keeps (r.item i) read) :
    Keeps r (Json.Value.list read) := by
  intro v w xs h hxs
  obtain ⟨items, rfl, hm⟩ := Json.Value.list_eq_ok.mp hxs
  generalize hitems : items = all at h
  cases h with
  | item hv =>
    subst hitems
    refine Json.Value.list_eq_ok.mpr ⟨_, rfl, ?_⟩
    rw [List.mapM_append] at hm ⊢
    obtain ⟨before, hbefore, hm⟩ := bind_eq_ok.mp hm
    refine bind_eq_ok.mpr ⟨before, hbefore, ?_⟩
    obtain ⟨rest, hrest, hm⟩ := bind_eq_ok.mp hm
    refine bind_eq_ok.mpr ⟨rest, ?_, hm⟩
    rw [List.mapM_cons] at hrest ⊢
    obtain ⟨x, hx, hrest⟩ := bind_eq_ok.mp hrest
    exact bind_eq_ok.mpr ⟨x, hread _ hv hx, hrest⟩

end

section

variable {α δ : Type} {shape : Shape δ} {start : δ}

/-- How the fields of a shape fit the part of its records. -/
structure Fits (r : Role) (shape : Shape δ) (start : δ) (finish : δ → α) : Prop where
  orderless : shape.Orderless
  keys : r.keys = shape.fields.map (·.name)
  keeps : ∀ f ∈ shape.fields, ∀ d, Keeps (r.member (.ok f.name)) (f.read · d)
  null : ∀ name ∈ r.nullable, ∃ f, shape.fields.find? (·.name == name) = some f ∧
    f.present start = false ∧ ∀ d, f.present d = false →
      ∃ d', f.read .null d = .ok d' ∧ finish d' = finish d

variable {finish : δ → α}

theorem Fits.keeps_readMember (h : Fits r shape start finish) {key : Except Json.Error String}
    (he : Edited (r.member key) v w) {d d' : δ}
    (hread : shape.readMember d (.pair key v) = .ok d') :
    shape.readMember d (.pair key w) = .ok d' := by
  obtain ⟨name, v, hm, hcases⟩ := Shape.readMember_eq_ok.mp hread
  cases hm
  refine Shape.readMember_eq_ok.mpr ⟨name, w, rfl, ?_⟩
  rcases hcases with ⟨hfind, hskip, hd⟩ | ⟨f, hfind, hmissing, hf⟩
  · exact .inl ⟨hfind, he.skip hskip, hd⟩
  · have hname : f.name = name := by simpa using List.find?_some hfind
    refine .inr ⟨f, hfind, hmissing, h.keeps f (List.mem_of_find?_eq_some hfind) d ?_ hf⟩
    rwa [hname]

theorem Fits.careful_record (h : Fits r shape start finish) :
    Careful fun v => do return finish (← shape.read start v) := by
  intro v a hread
  obtain ⟨d, hd, -⟩ := bind_eq_ok.mp hread
  exact h.orderless.careful hd

/-- A record is read the same after a change to it. -/
theorem Fits.keeps_record (h : Fits r shape start finish) :
    Keeps r fun v => do return finish (← shape.read start v) := by
  intro v w a he hread
  obtain ⟨d, hd, ha⟩ := bind_eq_ok.mp hread
  cases he with
  | reorder hp => exact bind_eq_ok.mpr ⟨d, h.orderless.read_perm hp hd, ha⟩
  | unknown _ hkey hv =>
    obtain ⟨s, hs⟩ := hv
    refine bind_eq_ok.mpr ⟨d, Shape.read_insert_unknown ?_ hs.skip hd, ha⟩
    rw [h.keys] at hkey
    simpa [List.find?_eq_none] using hkey
  | null hkey hmissing =>
    obtain ⟨f, hfind, hstart, hnull⟩ := h.null _ hkey
    have hopen := h.orderless.read_missing hfind hmissing hstart hd
    obtain ⟨d', hd', hfinish⟩ := hnull d hopen
    refine bind_eq_ok.mpr ⟨d', h.orderless.read_insert_missing hfind hopen hd' hd, ?_⟩
    rw [hfinish, ha]
  | item hv =>
    refine bind_eq_ok.mpr ⟨d, Shape.readPlaces_replace (fun f hf d d' hread => ?_) hd, ha⟩
    have hkey {i : Nat} (hi : shape.fields[i]? = some f) : r.item i = r.member (.ok f.name) :=
      Role.item_of_key (by rw [h.keys, List.getElem?_map, hi]; rfl)
    rw [hkey hf] at hv
    exact h.keeps f (List.mem_of_getElem? hf) d hv hread
  | value hv =>
    exact bind_eq_ok.mpr ⟨d, Shape.read_replace_member (h.keeps_readMember hv) hd, ha⟩

end

section

variable {α β δ : Type} {name name' : String} {required required' : Bool}
  {read : Json.Value → Outcome α} {read' : Json.Value → Outcome β} {get : δ → Option α}
  {get' : δ → Option β} {set : δ → α → δ} {set' : δ → β → δ}

theorem fills_placedField (hread : Careful read) (hset : ∀ d a, get (set d a) = some a) :
    (placedField name required read get set).Fills where
  careful := by
    intro v d d' h
    obtain ⟨a, ha, -⟩ := bind_eq_ok.mp h
    exact hread ha
  present := by
    intro v d d' h
    obtain ⟨a, -, hd⟩ := bind_eq_ok.mp h
    cases hd
    exact Option.isSome_iff_exists.mpr ⟨a, hset d a⟩

theorem separate_placedField (hget : ∀ d a, get' (set d a) = get' d)
    (hset : ∀ d a b, set' (set d a) b = set (set' d b) a) :
    (placedField name required read get set).Separate
      (placedField name' required' read' get' set') where
  keeps := by
    intro v d d' h
    obtain ⟨a, -, hd⟩ := bind_eq_ok.mp h
    cases hd
    exact congrArg Option.isSome (hget d a)
  commutes := by
    intro v w d d₁ d₂ hv hw
    obtain ⟨a, ha, hd⟩ := bind_eq_ok.mp hv
    cases hd
    obtain ⟨b, hb, hd⟩ := bind_eq_ok.mp hw
    cases hd
    refine ⟨set' d b, bind_eq_ok.mpr ⟨b, hb, rfl⟩, bind_eq_ok.mpr ⟨a, ha, ?_⟩⟩
    rw [hset]
    rfl

theorem keeps_placedField (hread : Keeps r read) (d : δ) :
    Keeps r ((placedField name required read get set).read · d) := by
  intro v w a h hv
  obtain ⟨x, hx, ha⟩ := bind_eq_ok.mp hv
  exact bind_eq_ok.mpr ⟨x, hread h hx, ha⟩

end

theorem careful_flags : Careful PropertyFlags.ofValue := by
  intro v flags h
  obtain ⟨n, hn, -⟩ := bind_eq_ok.mp h
  exact Json.Value.careful_word32 hn

theorem keeps_flags : Keeps r PropertyFlags.ofValue := by
  intro v w flags h hread
  obtain ⟨n, hn, hflags⟩ := bind_eq_ok.mp hread
  exact bind_eq_ok.mpr ⟨n, keeps_word32 h hn, hflags⟩

theorem orderless_property : Property.shape.Orderless where
  fills := by
    simp only [Property.shape, List.forall_mem_cons]
    refine ⟨?_, ?_, ?_, ?_, ?_, ?_, ?_, by simp⟩
    · exact fills_placedField (Json.Value.careful_parsedText _) fun _ _ => rfl
    · exact fills_placedField Json.Value.careful_text fun _ _ => rfl
    · exact fills_placedField (Json.Value.careful_parsedText _) fun _ _ => rfl
    · exact fills_placedField (Json.Value.careful_optional Json.Value.careful_text) fun _ _ => rfl
    · exact fills_placedField (Json.Value.careful_optional (Json.Value.careful_choice _)) fun _ _ => rfl
    · exact fills_placedField (Json.Value.careful_optional (Json.Value.careful_choice _)) fun _ _ => rfl
    · exact fills_placedField (Json.Value.careful_optional careful_flags) fun _ _ => rfl
  separate := by
    intro f hf g hg hne
    simp only [Property.shape, List.mem_cons, List.not_mem_nil, or_false] at hf hg
    rcases hf with rfl | rfl | rfl | rfl | rfl | rfl | rfl <;>
      rcases hg with rfl | rfl | rfl | rfl | rfl | rfl | rfl <;>
      first
      | exact absurd rfl hne
      | exact separate_placedField (fun _ _ => rfl) (fun _ _ _ => rfl)

theorem fits_property : Fits .property Property.shape {} Property.Draft.finish where
  orderless := orderless_property
  keys := rfl
  keeps := by
    simp only [Property.shape, List.forall_mem_cons]
    refine ⟨?_, ?_, ?_, ?_, ?_, ?_, ?_, by simp⟩
    · exact keeps_placedField (keeps_parsedText _)
    · exact keeps_placedField keeps_text
    · exact keeps_placedField (keeps_parsedText _)
    · exact keeps_placedField (keeps_optional keeps_text)
    · exact keeps_placedField (keeps_optional (keeps_choice _))
    · exact keeps_placedField (keeps_optional (keeps_choice _))
    · exact keeps_placedField (keeps_optional keeps_flags)
  null := by
    intro name hname
    simp only [Role.nullable, List.mem_cons, List.not_mem_nil, or_false] at hname
    rcases hname with rfl | rfl | rfl | rfl <;>
      refine ⟨_, rfl, rfl, fun d hd => ⟨_, rfl, ?_⟩⟩ <;>
      simp only [placedField, Option.isSome_eq_false_iff, Option.isNone_iff_eq_none] at hd <;>
      simp [Property.Draft.finish, hd]

theorem careful_property : Careful Property.ofValue := fits_property.careful_record

theorem keeps_property : Keeps .property Property.ofValue := fits_property.keeps_record

theorem orderless_entity : Entity.shape.Orderless where
  fills := by
    simp only [Entity.shape, List.forall_mem_cons]
    refine ⟨?_, ?_, ?_, ?_, by simp⟩
    · exact fills_placedField (Json.Value.careful_parsedText _) fun _ _ => rfl
    · exact fills_placedField Json.Value.careful_text fun _ _ => rfl
    · exact fills_placedField (Json.Value.careful_parsedText _) fun _ _ => rfl
    · exact fills_placedField (Json.Value.careful_list careful_property) fun _ _ => rfl
  separate := by
    intro f hf g hg hne
    simp only [Entity.shape, List.mem_cons, List.not_mem_nil, or_false] at hf hg
    rcases hf with rfl | rfl | rfl | rfl <;> rcases hg with rfl | rfl | rfl | rfl <;>
      first
      | exact absurd rfl hne
      | exact separate_placedField (fun _ _ => rfl) (fun _ _ _ => rfl)

theorem fits_entity : Fits .entity Entity.shape {} Entity.Draft.finish where
  orderless := orderless_entity
  keys := rfl
  keeps := by
    simp only [Entity.shape, List.forall_mem_cons]
    refine ⟨?_, ?_, ?_, ?_, by simp⟩
    · exact keeps_placedField (keeps_parsedText _)
    · exact keeps_placedField keeps_text
    · exact keeps_placedField (keeps_parsedText _)
    · exact keeps_placedField (keeps_list fun _ => keeps_property)
  null := by simp [Role.nullable]

theorem careful_entity : Careful Entity.ofValue := fits_entity.careful_record

theorem keeps_entity : Keeps .entity Entity.ofValue := fits_entity.keeps_record

theorem orderless_schema : Schema.shape.Orderless where
  fills := by
    simp only [Schema.shape, List.forall_mem_cons]
    refine ⟨?_, ?_, by simp⟩
    · exact fills_placedField (Json.Value.careful_parsedText _) fun _ _ => rfl
    · exact fills_placedField (Json.Value.careful_list careful_entity) fun _ _ => rfl
  separate := by
    intro f hf g hg hne
    simp only [Schema.shape, List.mem_cons, List.not_mem_nil, or_false] at hf hg
    rcases hf with rfl | rfl <;> rcases hg with rfl | rfl <;>
      first
      | exact absurd rfl hne
      | exact separate_placedField (fun _ _ => rfl) (fun _ _ _ => rfl)

theorem fits_schema : Fits .schema Schema.shape {} Schema.Draft.finish where
  orderless := orderless_schema
  keys := rfl
  keeps := by
    simp only [Schema.shape, List.forall_mem_cons]
    refine ⟨?_, ?_, by simp⟩
    · exact keeps_placedField (keeps_parsedText _)
    · exact keeps_placedField (keeps_list fun _ => keeps_entity)
  null := by simp [Role.nullable]

theorem careful_schema : Careful Schema.ofValue := fits_schema.careful_record

theorem keeps_schema : Keeps .schema Schema.ofValue := fits_schema.keeps_record

/-- A text is loaded as the value that it is a text of. -/
theorem parse_eq_ok {text : String} {s : Schema} :
    parse text = .ok s ↔ ∃ v : Json.Value, v.IsText text ∧ ofValue v = .ok s := by
  constructor
  · intro h
    obtain ⟨read, hr, h⟩ := bind_eq_ok.mp h
    obtain ⟨htrailing, he⟩ := ite_error_eq_ok.mp h
    cases he
    refine ⟨_, Json.Value.isText_of_document ?_ (careful_schema hr), hr⟩
    rw [← Bool.eq_false_iff.mpr htrailing]
  · rintro ⟨v, hv, hs⟩
    rw [parse, readText, hv.document]
    simp [hs]

/-- A change keeps what is read. -/
theorem keeps_of_edits {s : Schema} (h : Relation.ReflTransGen (Edited .schema) v w)
    (hv : v.Writable) (hs : ofValue v = .ok s) : w.Writable ∧ ofValue w = .ok s := by
  induction h with
  | refl => exact ⟨hv, hs⟩
  | tail _ hedit ih => exact ⟨hedit.writable ih.1, keeps_schema hedit ih.2⟩

/-- A text that loads is the text of a value. Whatever is changed in the members of its objects, be
it their order, members more whose names do not count, or nulls where a property leaves a member
out, the outcome has texts too, and each of them loads as the same schema. -/
theorem loads_by_known_members {text : String} {s : Schema} (h : parse text = .ok s) :
    (∃ v : Json.Value, v.IsText text) ∧
      ∀ v v' : Json.Value, v.IsText text → Relation.ReflTransGen (Edited .schema) v v' →
        (∃ text', v'.IsText text') ∧ ∀ text', v'.IsText text' → parse text' = .ok s := by
  obtain ⟨v₀, hv₀, hs⟩ := parse_eq_ok.mp h
  refine ⟨⟨v₀, hv₀⟩, fun v v' hv hedits => ?_⟩
  have hsame : v = v₀ := congrArg Document.root (hv.document.symm.trans hv₀.document)
  subst hsame
  obtain ⟨hwritable', hs'⟩ := keeps_of_edits hedits (Json.Value.Padded.writable hv) hs
  constructor
  · obtain ⟨t, ht⟩ := hwritable'.padded
    exact ⟨String.ofList t, by rwa [Json.Value.IsText, String.toList_ofList]⟩
  · exact fun text' hv' => parse_eq_ok.mpr ⟨v', hv', hs'⟩

/-- The text of a schema of one entity of one property. -/
def plainText : String :=
  "\x7b\"lastEntityId\":\"1:10\",\"entities\":[\x7b\"id\":\"1:10\",\"name\":\"Task\",
  \"lastPropertyId\":\"1:11\",\"properties\":[\x7b\"id\":\"1:11\",\"name\":\"id\",
  \"type\":\"u64\"\x7d]\x7d]\x7d"

/-- The same with members in another order, one that nobody knows, and a null. -/
def editedText : String :=
  "\x7b\"entities\":[\x7b\"note\":\x7b\"of\":[null]\x7d,\"id\":\"1:10\",\"name\":\"Task\",
  \"lastPropertyId\":\"1:11\",\"properties\":[\x7b\"storeName\":null,\"id\":\"1:11\",
  \"name\":\"id\",\"type\":\"u64\"\x7d]\x7d],\"lastEntityId\":\"1:10\"\x7d"

def lastEntityMember : Member := .pair (.ok "lastEntityId") (.string (.ok "1:10"))

def identifierMembers : List Member :=
  [.pair (.ok "id") (.string (.ok "1:11")), .pair (.ok "name") (.string (.ok "id")),
    .pair (.ok "type") (.string (.ok "u64"))]

def nameMembers : List Member :=
  [.pair (.ok "id") (.string (.ok "1:10")), .pair (.ok "name") (.string (.ok "Task")),
    .pair (.ok "lastPropertyId") (.string (.ok "1:11"))]

/-- The members of an entity of one property. -/
def taskMembers (property : List Member) : List Member :=
  nameMembers ++ [.pair (.ok "properties") (.array [.object property none] none)]

def entitiesMember (entity : List Member) : Member :=
  .pair (.ok "entities") (.array [.object entity none] none)

/-- A member that nobody knows. -/
def noteMember : Member :=
  .pair (.ok "note") (.object [.pair (.ok "of") (.array [.null] none)] none)

theorem edits_task :
    Relation.ReflTransGen (Edited .schema)
      (.object [lastEntityMember, entitiesMember (taskMembers identifierMembers)] none)
      (.object [entitiesMember
        (noteMember :: taskMembers (.pair (.ok "storeName") .null :: identifierMembers)),
        lastEntityMember] none) := by
  have hnull : Edited .property (.object identifierMembers none)
      (.object (.pair (.ok "storeName") .null :: identifierMembers) none) :=
    .null (by decide) (by simp [identifierMembers])
  have hproperty : Edited .entity (.object (taskMembers identifierMembers) none)
      (.object (taskMembers (.pair (.ok "storeName") .null :: identifierMembers)) none) :=
    @Edited.value .entity (.ok "properties") _ _ nameMembers []
      (@Edited.item .properties _ _ [] [] hnull)
  have hnote : Edited .entity
      (.object (taskMembers (.pair (.ok "storeName") .null :: identifierMembers)) none)
      (.object (noteMember :: taskMembers (.pair (.ok "storeName") .null :: identifierMembers))
        none) := by
    refine .unknown (by decide) (by decide) (Json.Value.writable_object.mpr ?_)
    refine List.forall_mem_singleton.mpr (exists_memberWritten_iff.mpr ⟨exists_stringWritten _, ?_⟩)
    exact Json.Value.writable_array.mpr (List.forall_mem_singleton.mpr ⟨_, .null⟩)
  have hentity {e e' : List Member} (h : Edited .entity (.object e none) (.object e' none)) :
      Edited .schema (.object [lastEntityMember, entitiesMember e] none)
        (.object [lastEntityMember, entitiesMember e'] none) :=
    @Edited.value .schema (.ok "entities") _ _ [lastEntityMember] []
      (@Edited.item .entities _ _ [] [] h)
  exact ((Relation.ReflTransGen.single (hentity hproperty)).tail (hentity hnote)).tail
    (.reorder (.swap ..))

set_option maxRecDepth 4000 in
theorem loads_by_known_members_task : ∃ s, parse plainText = .ok s ∧ parse editedText = .ok s := by
  have hplain : Json.Value.IsText (.object [lastEntityMember,
      entitiesMember (taskMembers identifierMembers)] none) plainText :=
    (Json.Value.padded_of_read (show Json.Value.read 20 _ = (_, some []) by cbv) rfl rfl).isText
  have hedited : Json.Value.IsText (.object [entitiesMember
      (noteMember :: taskMembers (.pair (.ok "storeName") .null :: identifierMembers)),
      lastEntityMember] none) editedText :=
    (Json.Value.padded_of_read (show Json.Value.read 20 _ = (_, some []) by cbv) rfl rfl).isText
  obtain ⟨s, hs⟩ := exists_ok (x := ofValue (.object [lastEntityMember,
      entitiesMember (taskMembers identifierMembers)] none)) (by decide +kernel)
  have hparse := parse_eq_ok.mpr ⟨_, hplain, hs⟩
  exact ⟨s, hparse, ((loads_by_known_members hparse).2 _ _ hplain edits_task).2 _ hedited⟩

end RecordStore.Schema

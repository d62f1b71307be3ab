import Mathlib.Algebra.GroupWithZero.Nat
import RecordStore.Proofs.Outcome
import RecordStore.Proofs.Schema.ErrorTree
import RecordStore.Schema.Validate

/-! Which schemas are valid, told without the order of the checks and without their messages, and
that validation accepts these and no others. -/
namespace RecordStore

/-- What the id and the name of an entity or property have to be, given the last id. -/
structure ValidLabel (last : UInt32) (id : IdUid) (name : String) : Prop where
  id_ne_zero : id.id ≠ 0
  uid_ne_zero : id.uid ≠ 0
  id_le_last : id.id ≤ last
  name_ne_empty : name ≠ ""
  name_short : name.utf8ByteSize ≤ 64

/-- What an entity has to be: its properties fit the directory of a table and the slots of the
entity, no two of them share an id or a name, and one of them is the identifier. -/
structure Entity.Valid (e : Entity) : Prop where
  last_ne_zero : e.lastPropertyId.id ≠ 0
  count_le : e.properties.size ≤ 32766
  count_le_last : e.properties.size ≤ e.lastPropertyId.id.toNat
  labels : ∀ p ∈ e.properties, ValidLabel e.lastPropertyId.id p.idUid p.name
  storeName_ne_empty : ∀ p ∈ e.properties, p.storeName ≠ ""
  nodup_ids : (e.properties.toList.map Property.id).Nodup
  nodup_uids : (e.properties.toList.map Property.uid).Nodup
  nodup_names : (e.properties.toList.map Property.name).Nodup
  nodup_storeNames : (e.properties.toList.map Property.storeName).Nodup
  identifier : e.properties.toList.countP Property.isIdentifier = 1
  identifier_type : ∀ p ∈ e.properties, p.isIdentifier = true → p.type = .field .u64

/-- What a schema has to be: its entities are valid, and no two of them share an id or a name. -/
structure Schema.Valid (s : Schema) : Prop where
  entities : ∀ e ∈ s.entities, e.Valid
  labels : ∀ e ∈ s.entities, ValidLabel s.lastEntityId.id e.idUid e.name
  nodup_ids : (s.entities.toList.map Entity.id).Nodup
  nodup_uids : (s.entities.toList.map Entity.uid).Nodup
  nodup_names : (s.entities.toList.map Entity.name).Nodup

theorem issueIf_eq_nil {condition : Bool} {issue : Issue} :
    issueIf condition issue = [] ↔ condition = false := by
  cases condition <;> simp [issueIf]

/-- A walk that remembers the keys it has seen judges each key by those before it. -/
theorem nodup_cons_and_fresh {κ : Type} {seen seen' : κ → Prop} {k : κ} {ks : List κ}
    (h : ∀ k', seen' k' ↔ k = k' ∨ seen k') :
    ((k :: ks).Nodup ∧ ∀ k' ∈ k :: ks, ¬seen k') ↔
      ¬seen k ∧ ks.Nodup ∧ ∀ k' ∈ ks, ¬seen' k' := by
  simp only [List.nodup_cons, List.forall_mem_cons, h, not_or]
  constructor
  · rintro ⟨⟨hk, hn⟩, hs, hrest⟩
    exact ⟨hs, hn, fun k' hk' => ⟨fun he => hk (he ▸ hk'), hrest k' hk'⟩⟩
  · rintro ⟨hs, hn, hrest⟩
    exact ⟨⟨fun hk => (hrest k hk).1 rfl, hn⟩, hs, fun k' hk' => (hrest k' hk').2⟩

section

variable {α κ : Type} [Ord κ] (key : α → κ)

@[simp] theorem map_fst_withPrevious (seen : Std.TreeMap κ α) (xs : List α) :
    (withPrevious key seen xs).map (·.1) = xs := by
  induction xs generalizing seen with
  | nil => rfl
  | cons x xs ih => rw [withPrevious, List.map_cons, ih]

@[simp] theorem length_withPrevious (seen : Std.TreeMap κ α) (xs : List α) :
    (withPrevious key seen xs).length = xs.length := by
  rw [← List.length_map (f := (·.1)), map_fst_withPrevious]

/-- Nothing has a predecessor of its key if the keys are distinct, and new to what was seen. -/
theorem withPrevious_none_iff [Std.TransOrd κ] [Std.LawfulEqOrd κ]
    (seen : Std.TreeMap κ α) (xs : List α) :
    (∀ entry ∈ withPrevious key seen xs, entry.2 = none) ↔
      (xs.map key).Nodup ∧ ∀ k ∈ xs.map key, k ∉ seen := by
  induction xs generalizing seen with
  | nil => simp [withPrevious]
  | cons x xs ih =>
    have hinsert (k : κ) : k ∈ seen.insert (key x) x ↔ key x = k ∨ k ∈ seen := by
      rw [Std.TreeMap.mem_insert, Std.LawfulEqCmp.compare_eq_iff_eq]
    rw [withPrevious, List.forall_mem_cons, ih, List.map_cons, nodup_cons_and_fresh hinsert,
      ← Option.not_isSome_iff_eq_none, ← Std.TreeMap.mem_iff_isSome_getElem?]

theorem forall_mem_withPrevious [Std.TransOrd κ] [Std.LawfulEqOrd κ] {P : α → Prop}
    (xs : List α) :
    (∀ entry ∈ withPrevious key ∅ xs, P entry.1 ∧ entry.2 = none) ↔
      (∀ x ∈ xs, P x) ∧ (xs.map key).Nodup := by
  have hkeys := withPrevious_none_iff key ∅ xs
  have hfst := map_fst_withPrevious key ∅ xs
  simp only [Std.TreeMap.not_mem_emptyc, not_false_eq_true, implies_true, and_true] at hkeys
  have hmap : (∀ x ∈ xs, P x) ↔ ∀ entry ∈ withPrevious key ∅ xs, P entry.1 := by
    rw [← hfst, List.forall_mem_map, hfst]
  rw [← hkeys, hmap]
  exact ⟨fun hall => ⟨fun _ he => (hall _ he).1, fun _ he => (hall _ he).2⟩,
    fun ⟨hP, hnone⟩ entry he => ⟨hP entry he, hnone entry he⟩⟩

end

theorem forall_mem_zip {α β : Type} {P : α → Prop} {Q : β → Prop} {xs : List α} {ys : List β}
    (h : xs.length = ys.length) :
    (∀ pair ∈ xs.zip ys, P pair.1 ∧ Q pair.2) ↔ (∀ x ∈ xs, P x) ∧ ∀ y ∈ ys, Q y := by
  have hfst : (xs.zip ys).map Prod.fst = xs := List.map_fst_zip (Nat.le_of_eq h)
  have hsnd : (xs.zip ys).map Prod.snd = ys := List.map_snd_zip (Nat.le_of_eq h.symm)
  constructor
  · intro hall
    have hx := List.forall_mem_map.mpr fun pair hp => (hall pair hp).1
    have hy := List.forall_mem_map.mpr fun pair hp => (hall pair hp).2
    rw [hfst] at hx
    rw [hsnd] at hy
    exact ⟨hx, hy⟩
  · rintro ⟨hx, hy⟩ pair hp
    exact ⟨hx _ (List.of_mem_zip hp).1, hy _ (List.of_mem_zip hp).2⟩

/-- A check of ids and uids finds nothing if each element passes and none repeats an id or a uid. -/
theorem flatMap_withPrevious_eq_nil {α κ κ' : Type} [Ord κ] [Std.TransOrd κ] [Std.LawfulEqOrd κ]
    [Ord κ'] [Std.TransOrd κ'] [Std.LawfulEqOrd κ'] (id : α → κ) (uid : α → κ')
    (check : α → Option α → Option α → List Issue) {P : α → Prop}
    (h : ∀ x a b, check x a b = [] ↔ P x ∧ a = none ∧ b = none) (xs : List α) :
    (((withPrevious id ∅ xs).zip (withPrevious uid ∅ xs)).flatMap
        fun ((x, a), (_, b)) => check x a b) = [] ↔
      (∀ x ∈ xs, P x) ∧ (xs.map id).Nodup ∧ (xs.map uid).Nodup := by
  have hlen : (withPrevious id ∅ xs).length = (withPrevious uid ∅ xs).length := by simp
  have hzip := forall_mem_zip (P := fun entry : α × Option α => P entry.1 ∧ entry.2 = none)
    (Q := fun entry : α × Option α => True ∧ entry.2 = none) hlen
  have huid := forall_mem_withPrevious uid (P := fun _ => True) xs
  rw [forall_mem_withPrevious id, huid] at hzip
  rw [List.flatMap_eq_nil_iff]
  simp only [h]
  simpa [and_assoc] using hzip

namespace Entity

variable {e : Entity}

theorem countIssues_eq_nil :
    e.countIssues = [] ↔ e.lastPropertyId.id ≠ 0 ∧ e.properties.size ≤ 32766 ∧
      e.properties.size ≤ e.lastPropertyId.id.toNat := by
  rw [countIssues, List.append_eq_nil_iff, List.append_eq_nil_iff, issueIf_eq_nil, issueIf_eq_nil,
    issueIf_eq_nil, beq_eq_false_iff_ne, decide_eq_false_iff_not, decide_eq_false_iff_not,
    Nat.not_lt, Nat.not_lt, and_assoc]
  rfl

theorem propertyIdIssues_eq_nil {last : UInt32} {p : Property} {sameId sameUid : Option Property} :
    propertyIdIssues last p sameId sameUid = [] ↔
      (p.id ≠ 0 ∧ p.uid ≠ 0 ∧ p.id ≤ last) ∧ sameId = none ∧ sameUid = none := by
  simp [propertyIdIssues, issueIf_eq_nil, and_assoc]

theorem idIssues_eq_nil :
    e.idIssues = [] ↔
      (∀ p ∈ e.properties.toList, p.id ≠ 0 ∧ p.uid ≠ 0 ∧ p.id ≤ e.lastPropertyId.id) ∧
        (e.properties.toList.map Property.id).Nodup ∧
        (e.properties.toList.map Property.uid).Nodup :=
  flatMap_withPrevious_eq_nil Property.id Property.uid (propertyIdIssues e.lastPropertyId.id)
    (fun _ _ _ => propertyIdIssues_eq_nil) e.properties.toList

theorem identifierIssues_eq_nil :
    e.identifierIssues = [] ↔ e.properties.toList.countP Property.isIdentifier = 1 ∧
      ∀ p ∈ e.properties, p.isIdentifier = true → p.type = .field .u64 := by
  have hmem (p : Property) : p ∈ e.properties.toList.filter Property.isIdentifier ↔
      p ∈ e.properties ∧ p.isIdentifier = true := by
    rw [List.mem_filter, Array.mem_toList_iff]
  rw [identifierIssues, List.countP_eq_length_filter]
  simp only [← and_imp, ← hmem]
  match e.properties.toList.filter Property.isIdentifier with
  | [] => simp
  | [p] => simp [issueIf_eq_nil]
  | p :: q :: rest => simp

/-- Nothing is reported if every property has its names and none of them was seen before. -/
theorem namingIssuesFrom_eq_nil {names storeNames : Std.TreeSet String} {ps : List Property} :
    namingIssuesFrom names storeNames ps = [] ↔
      (∀ p ∈ ps, p.name ≠ "" ∧ p.storeName ≠ "" ∧ p.name.utf8ByteSize ≤ 64) ∧
        ((ps.map Property.name).Nodup ∧ ∀ n ∈ ps.map Property.name, n ∉ names) ∧
        ((ps.map Property.storeName).Nodup ∧
          ∀ n ∈ ps.map Property.storeName, n ∉ storeNames) := by
  induction ps generalizing names storeNames with
  | nil => simp [namingIssuesFrom]
  | cons p ps ih =>
    have hinsert (seen : Std.TreeSet String) (n n' : String) :
        n' ∈ seen.insert n ↔ n = n' ∨ n' ∈ seen := by
      rw [Std.TreeSet.mem_insert, Std.LawfulEqCmp.compare_eq_iff_eq]
    rw [namingIssuesFrom, List.forall_mem_cons, List.map_cons, List.map_cons,
      nodup_cons_and_fresh (hinsert names p.name),
      nodup_cons_and_fresh (hinsert storeNames p.storeName)]
    by_cases hempty : (p.name.isEmpty || p.storeName.isEmpty) = true
    · rw [if_pos hempty]
      rw [Bool.or_eq_true, String.isEmpty_iff, String.isEmpty_iff] at hempty
      refine iff_of_false (List.cons_ne_nil _ _) ?_
      rintro ⟨⟨⟨hn, hs, -⟩, -⟩, -⟩
      exact hempty.elim hn hs
    · rw [if_neg hempty, List.append_eq_nil_iff, List.append_eq_nil_iff, List.append_eq_nil_iff,
        ih, issueIf_eq_nil, issueIf_eq_nil, issueIf_eq_nil, decide_eq_false_iff_not, Nat.not_lt,
        ← Bool.not_eq_true, ← Bool.not_eq_true, ← Std.TreeSet.mem_iff_contains,
        ← Std.TreeSet.mem_iff_contains]
      rw [Bool.or_eq_true, String.isEmpty_iff, String.isEmpty_iff, not_or] at hempty
      constructor
      · rintro ⟨⟨⟨hshort, hn⟩, hs⟩, hrest, hns, hss⟩
        exact ⟨⟨⟨hempty.1, hempty.2, hshort⟩, hrest⟩, ⟨hn, hns⟩, hs, hss⟩
      · rintro ⟨⟨⟨-, -, hshort⟩, hrest⟩, ⟨hn, hns⟩, hs, hss⟩
        exact ⟨⟨⟨hshort, hn⟩, hs⟩, hrest, hns, hss⟩

theorem namingIssues_eq_nil :
    e.namingIssues = [] ↔
      (∀ p ∈ e.properties.toList, p.name ≠ "" ∧ p.storeName ≠ "" ∧ p.name.utf8ByteSize ≤ 64) ∧
        (e.properties.toList.map Property.name).Nodup ∧
        (e.properties.toList.map Property.storeName).Nodup := by
  rw [namingIssues, namingIssuesFrom_eq_nil]
  simp only [Std.TreeSet.not_mem_emptyc, not_false_eq_true, implies_true, and_true]

/-- An entity has no problems of its own if it is valid. -/
theorem issues_eq_nil_iff_valid : e.issues = [] ↔ e.Valid := by
  rw [issues, List.append_eq_nil_iff, List.append_eq_nil_iff, List.append_eq_nil_iff,
    countIssues_eq_nil, idIssues_eq_nil, identifierIssues_eq_nil, namingIssues_eq_nil]
  simp only [Array.mem_toList_iff]
  constructor
  · rintro ⟨⟨⟨⟨hlast, hcount, hslots⟩, hids, hi, hu⟩, hone, htype⟩, hnames, hn, hs⟩
    exact
      { last_ne_zero := hlast, count_le := hcount, count_le_last := hslots
        labels := fun p hp =>
          ⟨(hids p hp).1, (hids p hp).2.1, (hids p hp).2.2, (hnames p hp).1, (hnames p hp).2.2⟩
        storeName_ne_empty := fun p hp => (hnames p hp).2.1
        nodup_ids := hi, nodup_uids := hu, nodup_names := hn, nodup_storeNames := hs
        identifier := hone, identifier_type := htype }
  · intro h
    refine ⟨⟨⟨⟨h.last_ne_zero, h.count_le, h.count_le_last⟩, ?_, h.nodup_ids, h.nodup_uids⟩,
      h.identifier, h.identifier_type⟩, ?_, h.nodup_names, h.nodup_storeNames⟩
    · exact fun p hp =>
        ⟨(h.labels p hp).id_ne_zero, (h.labels p hp).uid_ne_zero, (h.labels p hp).id_le_last⟩
    · exact fun p hp =>
        ⟨(h.labels p hp).name_ne_empty, h.storeName_ne_empty p hp, (h.labels p hp).name_short⟩

end Entity

namespace Schema

variable {s : Schema}

theorem size_issueTree (s : Schema) :
    s.issueTree.size = (s.entities.toList.map fun e => e.issues.length).sum +
      (s.idIssues ++ s.namingIssues).length := by
  have hfold (es : List Entity) (t : ErrorTree) :
      (es.foldl (fun t e =>
        t.mergeFor e.name (ErrorTree.empty.append (e.issues.map Issue.message))) t).size =
        t.size + (es.map fun e => e.issues.length).sum := by
    induction es generalizing t with
    | nil => simp
    | cons e es ih =>
      rw [List.foldl_cons, ih, ErrorTree.size_mergeFor, ErrorTree.size_append, ErrorTree.size_empty,
        List.length_map, List.map_cons, List.sum_cons]
      omega
  rw [issueTree, ErrorTree.size_append, ← Array.foldl_toList, hfold, ErrorTree.size_empty,
    List.length_map, Nat.zero_add]

/-- A schema is accepted if no check has found a problem. -/
theorem validate_eq_ok :
    s.validate = .ok () ↔
      (∀ e ∈ s.entities, e.issues = []) ∧ s.idIssues = [] ∧ s.namingIssues = [] := by
  rw [validate, ErrorTree.result_eq_ok, size_issueTree, Nat.add_eq_zero_iff,
    List.sum_eq_zero_iff_forall_eq_nat]
  simp

theorem entityIdIssues_eq_nil {last : UInt32} {e : Entity} {sameId sameUid : Option Entity} :
    entityIdIssues last e sameId sameUid = [] ↔
      (e.id ≠ 0 ∧ e.uid ≠ 0 ∧ e.id ≤ last) ∧ sameId = none ∧ sameUid = none := by
  simp [entityIdIssues, issueIf_eq_nil, and_assoc]

theorem idIssues_eq_nil :
    s.idIssues = [] ↔
      (∀ e ∈ s.entities.toList, e.id ≠ 0 ∧ e.uid ≠ 0 ∧ e.id ≤ s.lastEntityId.id) ∧
        (s.entities.toList.map Entity.id).Nodup ∧ (s.entities.toList.map Entity.uid).Nodup :=
  flatMap_withPrevious_eq_nil Entity.id Entity.uid (entityIdIssues s.lastEntityId.id)
    (fun _ _ _ => entityIdIssues_eq_nil) s.entities.toList

theorem namingIssues_eq_nil :
    s.namingIssues = [] ↔
      (∀ e ∈ s.entities.toList, e.name ≠ "" ∧ e.name.utf8ByteSize ≤ 64) ∧
        (s.entities.toList.map Entity.name).Nodup := by
  have hcheck (e : Entity) (sameName : Option Entity) :
      (if e.name.isEmpty then [Issue.entityNameEmpty e.idUid]
        else issueIf (maxNameLength < e.name.utf8ByteSize) (.entityNameLong e.name)) ++
          issueIf sameName.isSome (.entityNameRepeated e.name) = [] ↔
        (e.name ≠ "" ∧ e.name.utf8ByteSize ≤ 64) ∧ sameName = none := by
    rw [List.append_eq_nil_iff, issueIf_eq_nil, Option.isSome_eq_false_iff,
      Option.isNone_iff_eq_none]
    by_cases he : e.name = ""
    · simp [he]
    · rw [if_neg (by simpa using he), issueIf_eq_nil, decide_eq_false_iff_not, Nat.not_lt]
      simp [he, maxNameLength]
  rw [namingIssues, List.flatMap_eq_nil_iff, ← forall_mem_withPrevious Entity.name]
  simp only [hcheck]

/-- The checks find no problem in a schema if it is valid. -/
theorem issues_eq_nil_iff_valid :
    ((∀ e ∈ s.entities, e.issues = []) ∧ s.idIssues = [] ∧ s.namingIssues = []) ↔ s.Valid := by
  rw [idIssues_eq_nil, namingIssues_eq_nil]
  simp only [Entity.issues_eq_nil_iff_valid, Array.mem_toList_iff]
  constructor
  · rintro ⟨hentities, ⟨hids, hi, hu⟩, hnames, hn⟩
    exact
      { entities := hentities
        labels := fun e he =>
          ⟨(hids e he).1, (hids e he).2.1, (hids e he).2.2, (hnames e he).1, (hnames e he).2⟩
        nodup_ids := hi, nodup_uids := hu, nodup_names := hn }
  · intro h
    refine ⟨h.entities, ⟨?_, h.nodup_ids, h.nodup_uids⟩, ?_, h.nodup_names⟩
    · exact fun e he =>
        ⟨(h.labels e he).id_ne_zero, (h.labels e he).uid_ne_zero, (h.labels e he).id_le_last⟩
    · exact fun e he => ⟨(h.labels e he).name_ne_empty, (h.labels e he).name_short⟩

/-- Validation accepts exactly the valid schemas. -/
theorem validate_eq_ok_iff_valid (s : Schema) : s.validate = .ok () ↔ s.Valid := by
  rw [validate_eq_ok, issues_eq_nil_iff_valid]

end Schema

end RecordStore

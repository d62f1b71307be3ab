import Mathlib.Data.List.Perm.Subperm
import RecordStore.Proofs.Schema.Routes
import RecordStore.Proofs.Schema.Validity

/-! What the properties of entities are at fault for, each told by the properties that stand before
it, and how much of it validation reports under the name of the entity. -/
namespace RecordStore

namespace Property

/-- The last of some earlier properties that agrees with this one in a key. -/
def lastLike {κ : Type} [BEq κ] (key : Property → κ) (earlier : List Property) (p : Property) :
    Option Property :=
  earlier.reverse.find? (key · == key p)

/-- What is wrong with the ids of a property that stands behind earlier ones. -/
def idFaults (last : UInt32) (earlier : List Property) (p : Property) : List Issue :=
  issueIf (p.id = 0 ∨ p.uid = 0) (.propertyIdInvalid p.name p.idUid) ++
    issueIf (last < p.id) (.propertyIdAboveLast p.name p.id last) ++
    ((p.lastLike id earlier).map fun q => Issue.propertyIdRepeated p.id q.name p.name).toList ++
    ((p.lastLike uid earlier).map fun q => Issue.propertyUidRepeated p.uid q.name p.name).toList

/-- What is wrong with the names of a property that stands behind earlier ones. -/
def nameFaults (earlier : List Property) (p : Property) : List Issue :=
  issueIf (64 < p.name.utf8ByteSize) (.propertyNameLong p.name) ++
    issueIf (p.name ∈ earlier.map name) (.propertyNameRepeated p.name) ++
    issueIf (p.storeName ∈ earlier.map storeName) (.storeNameRepeated p.storeName)

/-- Neither of the names is empty. -/
def isNamed (p : Property) : Bool := p.name != "" && p.storeName != ""

/-- What is reported of the names of a property: those that are not empty are compared with each
other only. -/
def nameReport (earlier : List Property) (p : Property) : List Issue :=
  if p.isNamed then p.nameFaults (earlier.filter isNamed) else [.propertyNameEmpty p.idUid]

end Property

/-- What a function makes of each element of a list, given those before it. -/
def overEach {α β : Type} (f : List α → α → List β) (before : List α) : List α → List β
  | [] => []
  | x :: rest => f before x ++ overEach f (before ++ [x]) rest

namespace Entity

/-- All that the properties of an entity are at fault for. -/
def faults (e : Entity) : List Issue :=
  overEach (fun before p => p.idFaults e.lastPropertyId.id before ++ p.nameFaults before) []
    e.properties.toList

/-- All that is reported of an entity. -/
def report (e : Entity) : List Issue :=
  e.countIssues ++ e.identifierIssues ++
    overEach (fun before p => p.idFaults e.lastPropertyId.id before ++ p.nameReport before) []
      e.properties.toList

/-- No property has an empty name. -/
def Named (e : Entity) : Prop := ∀ p ∈ e.properties, p.isNamed = true

instance (e : Entity) : Decidable e.Named :=
  inferInstanceAs (Decidable (∀ p ∈ e.properties, p.isNamed = true))

end Entity

namespace Schema

/-- What the properties of the entities of a name are at fault for. -/
def faultsAt (s : Schema) (name : String) : List Issue :=
  (s.entities.toList.filter (·.name == name)).flatMap Entity.faults

/-- What is reported of the entities of a name. -/
def reportAt (s : Schema) (name : String) : List Issue :=
  (s.entities.toList.filter (·.name == name)).flatMap Entity.report

end Schema

section

variable {α β : Type}

theorem overEach_congr {f g : List α → α → List β} {before xs : List α}
    (h : ∀ before' x rest, before ++ xs = before' ++ x :: rest → f before' x = g before' x) :
    overEach f before xs = overEach g before xs := by
  induction xs generalizing before with
  | nil => rfl
  | cons x xs ih =>
    rw [overEach, overEach, h before x xs rfl, ih]
    intro before' x' rest he
    exact h before' x' rest (by rw [← he, List.append_assoc, List.singleton_append])

theorem overEach_perm_append (f g : List α → α → List β) (before xs : List α) :
    (overEach (fun before x => f before x ++ g before x) before xs).Perm
      (overEach f before xs ++ overEach g before xs) := by
  induction xs generalizing before with
  | nil => exact .refl _
  | cons x xs ih =>
    rw [overEach, overEach, overEach, List.append_assoc, List.append_assoc]
    refine List.Perm.append_left _ (((ih _).append_left _).trans ?_)
    rw [← List.append_assoc, ← List.append_assoc]
    exact List.perm_append_comm.append_right _

end

namespace Property

section

variable {κ : Type} [Ord κ] [Std.TransOrd κ] [Std.LawfulEqOrd κ] [BEq κ] [LawfulBEq κ]
  {key : Property → κ} {seen : Std.TreeMap κ Property} {before : List Property}

/-- A map holds the last of some properties for each key. -/
def Recalls (key : Property → κ) (seen : Std.TreeMap κ Property) (before : List Property) : Prop :=
  ∀ p : Property, seen[key p]? = p.lastLike key before

omit [Std.LawfulEqOrd κ] [LawfulBEq κ] in
theorem recalls_empty : Recalls key ∅ [] := fun _ => Std.TreeMap.getElem?_emptyc

theorem Recalls.insert (h : Recalls key seen before) (p : Property) :
    Recalls key (seen.insert (key p) p) (before ++ [p]) := by
  intro q
  rw [Std.TreeMap.getElem?_insert, h, lastLike, lastLike, List.reverse_append,
    List.reverse_singleton, List.singleton_append, List.find?_cons]
  by_cases hk : key p = key q
  · simp [hk]
  · rw [if_neg (fun he => hk (Std.LawfulEqCmp.compare_eq_iff_eq.mp he)), beq_false_of_ne hk]

end

/-- A set holds the names of the properties that have both names. -/
def Knows (key : Property → String) (seen : Std.TreeSet String) (before : List Property) : Prop :=
  ∀ n, n ∈ seen ↔ n ∈ (before.filter isNamed).map key

variable {key : Property → String} {seen : Std.TreeSet String} {before : List Property}
  {p : Property}

theorem knows_empty : Knows key ∅ [] := by
  intro n
  simp

theorem Knows.insert (h : Knows key seen before) (hp : p.isNamed = true) :
    Knows key (seen.insert (key p)) (before ++ [p]) := by
  intro n
  rw [Std.TreeSet.mem_insert, Std.LawfulEqCmp.compare_eq_iff_eq, h n, List.filter_append,
    List.filter_cons_of_pos hp, List.filter_nil, List.map_append, List.mem_append,
    List.map_singleton, List.mem_singleton, or_comm, eq_comm]

theorem Knows.skip (h : Knows key seen before) (hp : ¬p.isNamed = true) :
    Knows key seen (before ++ [p]) := by
  intro n
  rw [h n, List.filter_append, List.filter_cons_of_neg hp, List.filter_nil, List.append_nil]

theorem Knows.contains_eq (h : Knows key seen before) (n : String) :
    seen.contains n = decide (n ∈ (before.filter isNamed).map key) := by
  rw [Bool.eq_iff_iff, ← Std.TreeSet.mem_iff_contains, h n, decide_eq_true_iff]

end Property

namespace Entity

variable {e : Entity}

theorem idIssues_eq :
    e.idIssues = overEach (fun before p => p.idFaults e.lastPropertyId.id before) []
      e.properties.toList := by
  have hwalk {ids : Std.TreeMap UInt32 Property} {uids : Std.TreeMap UInt64 Property}
      {before : List Property} (hi : Property.Recalls Property.id ids before)
      (hu : Property.Recalls Property.uid uids before) (ps : List Property) :
      (((withPrevious Property.id ids ps).zip (withPrevious Property.uid uids ps)).flatMap
        fun x => propertyIdIssues e.lastPropertyId.id x.1.1 x.1.2 x.2.2) =
        overEach (fun before p => p.idFaults e.lastPropertyId.id before) before ps := by
    induction ps generalizing ids uids before with
    | nil => rfl
    | cons p ps ih =>
      rw [withPrevious, withPrevious, List.zip_cons_cons, List.flatMap_cons, overEach,
        ih (hi.insert p) (hu.insert p), hi p, hu p]
      simp [propertyIdIssues, Property.idFaults, beq_eq_decide]
  exact hwalk Property.recalls_empty Property.recalls_empty e.properties.toList

theorem namingIssuesFrom_eq {names storeNames : Std.TreeSet String} {before : List Property}
    (hn : Property.Knows Property.name names before)
    (hs : Property.Knows Property.storeName storeNames before) (ps : List Property) :
    namingIssuesFrom names storeNames ps =
      overEach (fun before p => p.nameReport before) before ps := by
  induction ps generalizing names storeNames before with
  | nil => rfl
  | cons p ps ih =>
    have hempty : (p.name.isEmpty || p.storeName.isEmpty) = true ↔ ¬p.isNamed = true := by
      simp [Property.isNamed, ← not_or]
    rw [namingIssuesFrom, overEach, Property.nameReport]
    by_cases hp : p.isNamed = true
    · rw [if_neg (fun he => hempty.mp he hp), if_pos hp, ih (hn.insert hp) (hs.insert hp),
        Property.nameFaults, hn.contains_eq, hs.contains_eq]
      rfl
    · rw [if_pos (hempty.mpr hp), if_neg hp, ih (hn.skip hp) (hs.skip hp), List.singleton_append]

/-- The checks of an entity find what is reported of it, in the order of the checks. -/
theorem issues_perm_report (e : Entity) : e.issues.Perm e.report := by
  have hnames : e.namingIssues = overEach (fun before p => p.nameReport before) []
      e.properties.toList :=
    namingIssuesFrom_eq Property.knows_empty Property.knows_empty e.properties.toList
  rw [issues, report, idIssues_eq, hnames, List.append_assoc, List.append_assoc, List.append_assoc]
  refine List.Perm.append_left _ (.trans ?_ (.append_left _ (overEach_perm_append _ _ _ _).symm))
  rw [← List.append_assoc, ← List.append_assoc]
  exact List.perm_append_comm.append_right _

/-- Without empty names, everything that the properties are at fault for is reported. -/
theorem report_of_named (h : e.Named) :
    e.report = e.countIssues ++ e.identifierIssues ++ e.faults := by
  rw [report, faults]
  congr 1
  refine overEach_congr fun before p rest he => ?_
  have hnamed (q : Property) (hq : q ∈ before ++ p :: rest) : q.isNamed = true := by
    rw [← he, List.nil_append, Array.mem_toList_iff] at hq
    exact h q hq
  have hbefore : before.filter Property.isNamed = before :=
    List.filter_eq_self.mpr fun q hq => hnamed q (by simp [hq])
  rw [Property.nameReport, if_pos (hnamed p (by simp)), hbefore]

end Entity

namespace Schema

theorem messagesAt_issueTree (s : Schema) (name : String) :
    s.issueTree.messagesAt [name] =
      ((s.entities.toList.filter (·.name == name)).flatMap Entity.issues).map Issue.message := by
  have hfold (es : List Entity) {t : ErrorTree} (ht : t.Ordered) :
      (es.foldl (fun t e =>
        t.mergeFor e.name (ErrorTree.empty.append (e.issues.map Issue.message))) t).messagesAt
          [name] =
        t.messagesAt [name] ++
          ((es.filter (·.name == name)).flatMap Entity.issues).map Issue.message := by
    induction es generalizing t with
    | nil => simp
    | cons e es ih =>
      have hu : (ErrorTree.empty.append (e.issues.map Issue.message)).Ordered :=
        ErrorTree.ordered_empty.append _
      rw [List.foldl_cons, ih (ht.mergeFor_of _ fun _ hc => hc.merge _),
        ErrorTree.messagesAt_mergeFor ht hu, List.append_assoc]
      congr 1
      rw [ErrorTree.messagesAt_cons, ErrorTree.under_node_cons]
      by_cases hk : e.name = name
      · rw [if_pos hk.symm, List.filter_cons, if_pos (by simpa using hk), List.flatMap_cons,
          List.map_append]
        rfl
      · rw [if_neg (Ne.symm hk), List.filter_cons, if_neg (by simpa using hk),
          ErrorTree.under_of_not_mem (by simp), ErrorTree.messagesAt_empty, List.nil_append]
  rw [issueTree, ErrorTree.messagesAt_cons, ErrorTree.under_append, ← ErrorTree.messagesAt_cons,
    ← Array.foldl_toList, hfold _ ErrorTree.ordered_empty, ErrorTree.messagesAt_empty,
    List.nil_append]

theorem issues_perm_reportAt (s : Schema) (name : String) :
    ((s.entities.toList.filter (·.name == name)).flatMap Entity.issues).Perm (s.reportAt name) :=
  List.Perm.flatMap_left _ fun e _ => e.issues_perm_report

theorem validate_eq_error {s : Schema} {name : String} (h : s.reportAt name ≠ []) :
    s.validate = .error s.issueTree := by
  have hne : s.issueTree.isEmpty ≠ true := by
    intro he
    have hnone := ErrorTree.messagesAt_of_isEmpty he [name]
    rw [messagesAt_issueTree, List.map_eq_nil_iff] at hnone
    exact h (hnone ▸ s.issues_perm_reportAt name).nil_eq.symm
  rw [validate, ErrorTree.result, if_neg hne]

theorem faultsAt_sublist_reportAt {s : Schema} {name : String}
    (h : ∀ e ∈ s.entities, e.name = name → e.Named) :
    (s.faultsAt name).Sublist (s.reportAt name) := by
  have hnamed (e : Entity) (he : e ∈ s.entities.toList.filter (·.name == name)) : e.Named := by
    rw [List.mem_filter, Array.mem_toList_iff, beq_iff_eq] at he
    exact h e he.1 he.2
  have hsub (es : List Entity) (hes : ∀ e ∈ es, e.Named) :
      (es.flatMap Entity.faults).Sublist (es.flatMap Entity.report) := by
    induction es with
    | nil => exact .refl _
    | cons e es ih =>
      rw [List.forall_mem_cons] at hes
      rw [List.flatMap_cons, List.flatMap_cons, Entity.report_of_named hes.1]
      exact (List.sublist_append_right _ _).append (ih hes.2)
  exact hsub _ hnamed

/-- Validation reports of the entities of a name, under that name, one message for each fault of
each property: an id or uid that is zero, above the last one or taken by an earlier property, a name
that is too long, and a name or store name that an earlier property has. Only where a property has
an empty name is this reported instead, and its names are not compared. -/
theorem validation_reports_faults (s : Schema) (name : String) :
    (s.reportAt name ≠ [] →
      ∃ tree, s.validate = .error tree ∧
        (tree.messagesAt [name]).Perm ((s.reportAt name).map Issue.message)) ∧
    ((∀ e ∈ s.entities, e.name = name → e.Named) → s.faultsAt name ≠ [] →
      ∃ tree, s.validate = .error tree ∧
        ((s.faultsAt name).map Issue.message).Subperm (tree.messagesAt [name]) ∧
        ((s.faultsAt name).map fun f => (name, f.message)).Subperm tree.flatten) := by
  have hreport : (s.issueTree.messagesAt [name]).Perm ((s.reportAt name).map Issue.message) := by
    rw [messagesAt_issueTree]
    exact (s.issues_perm_reportAt name).map _
  refine ⟨fun h => ⟨s.issueTree, validate_eq_error h, hreport⟩, ?_⟩
  intro hnamed hfaults
  have hsub := (faultsAt_sublist_reportAt hnamed).map Issue.message
  have hne : s.reportAt name ≠ [] := fun he =>
    hfaults (List.sublist_nil.mp (he ▸ faultsAt_sublist_reportAt hnamed))
  have hroute := (hsub.map (name, ·)).subperm.trans ((hreport.map (name, ·)).symm.subperm.trans
    (ErrorTree.sublist_flattenFrom s.issueTree "" [name]).subperm)
  rw [List.map_map] at hroute
  exact ⟨s.issueTree, validate_eq_error hne, hsub.subperm.trans hreport.symm.subperm, hroute⟩

/-- Two entities of one name. In the first a property repeats the id and both names of another,
whose ids are above the last one; in the second the only property has no id. -/
def crowdedSchema : Schema :=
  let text : Property := (Property.ofType ⟨2, 12⟩ "text" (.field .text)).withStoreName "text"
  let again : Property := (Property.ofType ⟨2, 13⟩ "text" (.field .text)).withStoreName "text"
  let key : Property := (Property.ofType ⟨0, 21⟩ "id" (.field .u64)).withStoreName "id"
  ((empty ⟨2, 20⟩).push (((Entity.ofName ⟨1, 10⟩ "Note" ⟨1, 11⟩).push text).push again)).push
    ((Entity.ofName ⟨2, 20⟩ "Note" ⟨1, 21⟩).push key)

theorem validation_reports_faults_note :
    ∃ tree, crowdedSchema.validate = .error tree ∧
      List.Subperm ["property 'text' id 2 is above the last property id 1",
        "property 'text' id 2 is above the last property id 1",
        "duplicate property id 2 for 'text' and 'text'", "duplicate property name 'text'",
        "duplicate store name 'text'", "property 'id' has an invalid id/uid 0:21"]
        (tree.messagesAt ["Note"]) := by
  have hnamed : ∀ e ∈ crowdedSchema.entities, e.name = "Note" → e.Named := by
    decide +kernel
  have hfaults : (crowdedSchema.faultsAt "Note").map Issue.message =
      ["property 'text' id 2 is above the last property id 1",
        "property 'text' id 2 is above the last property id 1",
        "duplicate property id 2 for 'text' and 'text'", "duplicate property name 'text'",
        "duplicate store name 'text'", "property 'id' has an invalid id/uid 0:21"] := by
    decide +kernel
  have hne : crowdedSchema.faultsAt "Note" ≠ [] := by
    intro h
    rw [h] at hfaults
    cases hfaults
  obtain ⟨tree, hv, hsub, -⟩ := (validation_reports_faults crowdedSchema "Note").2 hnamed hne
  exact ⟨tree, hv, hfaults ▸ hsub⟩

/-- A name that is taken, on a property whose store name is empty. -/
def halfNamedSchema : Schema :=
  let key : Property := (Property.ofType ⟨1, 1001⟩ "id" (.field .u64)).withStoreName "id"
  let text : Property := (Property.ofType ⟨2, 1002⟩ "text" (.field .text)).withStoreName "text"
  let again : Property := (Property.ofType ⟨3, 1003⟩ "text" (.field .text)).withStoreName ""
  let task := ((Entity.ofName ⟨1, 1000⟩ "Task" ⟨3, 1003⟩).push key).push text
  (empty ⟨1, 1000⟩).push (task.push again).resolveIdentifier

/-- The empty store name is reported, and the name that is taken is not. -/
theorem repeated_name_unreported :
    Issue.propertyNameRepeated "text" ∈ halfNamedSchema.faultsAt "Task" ∧
      ∃ tree, halfNamedSchema.validate = .error tree ∧
        tree.flatten = [("Task", "property 3:1003 has an empty name")] := by
  have hreport : halfNamedSchema.reportAt "Task" ≠ [] := by decide +kernel
  exact ⟨by decide +kernel, _, validate_eq_error hreport, by decide +kernel⟩

end Schema

end RecordStore

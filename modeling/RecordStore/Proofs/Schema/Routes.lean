import Mathlib.Data.String.Basic
import Mathlib.Tactic.TFAE
import RecordStore.Proofs.Schema.ErrorTree

/-! Messages by their routes: what a tree holds at the end of each path, and that merging joins
there what two trees hold, in its order. -/
namespace RecordStore.ErrorTree

open scoped List

/-- The tree one step below, which is empty where nothing was reported. -/
def under (t : ErrorTree) (key : String) : ErrorTree := (t.children.lookup key).getD empty

/-- The messages at the end of a path, in the order in which they came. -/
def messagesAt (t : ErrorTree) : List String → List String
  | [] => t.messages
  | key :: path => (t.under key).messagesAt path

/-- Everywhere in the tree, the keys are in order and each stands once. -/
inductive Ordered : ErrorTree → Prop
  | node {ms : List String} {cs : List (String × ErrorTree)}
      (keys : (cs.map (·.1)).Pairwise (· < ·)) (children : ∀ c ∈ cs, Ordered c.2) :
      Ordered (node ms cs)

/-- Trees that come of adding messages and of merging other such trees. -/
inductive Built : ErrorTree → Prop
  | empty : Built empty
  | add {t : ErrorTree} (message : String) : Built t → Built (t.add message)
  | addFor {t : ErrorTree} (key message : String) : Built t → Built (t.addFor key message)
  | mergeFor {t u : ErrorTree} (key : String) : Built t → Built u → Built (t.mergeFor key u)

@[simp] theorem messagesAt_nil (t : ErrorTree) : t.messagesAt [] = t.messages := rfl

@[simp] theorem messagesAt_cons (t : ErrorTree) (key : String) (path : List String) :
    t.messagesAt (key :: path) = (t.under key).messagesAt path := rfl

@[simp] theorem under_append (t : ErrorTree) (ms : List String) (key : String) :
    (t.append ms).under key = t.under key := rfl

@[simp] theorem messagesAt_empty (path : List String) : empty.messagesAt path = [] := by
  induction path with
  | nil => rfl
  | cons key path ih => exact ih

theorem under_node_cons (ms : List String) (key : String) (u : ErrorTree)
    (cs : List (String × ErrorTree)) (k : String) :
    (node ms ((key, u) :: cs)).under k = if k = key then u else (node [] cs).under k := by
  rw [under, children, List.lookup_cons]
  by_cases h : k = key
  · simp [h]
  · rw [if_neg h, beq_false_of_ne h]
    rfl

theorem under_of_not_mem {ms : List String} {cs : List (String × ErrorTree)} {key : String}
    (h : key ∉ cs.map (·.1)) : (node ms cs).under key = empty := by
  have hnone : cs.lookup key = none := by
    rw [List.lookup_eq_none_iff]
    rintro ⟨k, t⟩ hm
    have hne : key ≠ k := fun he => h (he ▸ List.mem_map_of_mem hm)
    simpa using hne
  rw [under, children, hnone, Option.getD_none]

section

variable {key : String} {f : ErrorTree → ErrorTree}

/-! A change under a key, as seen from each key. -/

theorem mem_keys_updateKey (cs : List (String × ErrorTree)) (k : String) :
    k ∈ (updateKey key f cs).map (·.1) ↔ k = key ∨ k ∈ cs.map (·.1) := by
  induction cs with
  | nil => simp [updateKey]
  | cons child rest ih =>
    obtain ⟨k', t⟩ := child
    rw [updateKey]
    by_cases he : key = k'
    · simp [he]
    · rw [if_neg he]
      by_cases hlt : key < k'
      · simp [hlt]
      · simp only [if_neg hlt, List.map_cons, List.mem_cons, ih]
        exact or_left_comm

theorem under_updateChild_of_ne (t : ErrorTree) {k : String} (h : k ≠ key) :
    (t.updateChild key f).under k = t.under k := by
  obtain ⟨ms, cs⟩ := t
  rw [updateChild]
  induction cs generalizing ms with
  | nil => rw [updateKey, under_node_cons, if_neg h]; rfl
  | cons child rest ih =>
    obtain ⟨k', t⟩ := child
    rw [updateKey]
    by_cases he : key = k'
    · subst he
      rw [if_pos rfl, under_node_cons, under_node_cons, if_neg h, if_neg h]
    · rw [if_neg he]
      by_cases hlt : key < k'
      · rw [if_pos hlt, under_node_cons, if_neg h]
        rfl
      · rw [if_neg hlt, under_node_cons, under_node_cons, ih]

theorem under_updateChild_self {t : ErrorTree} (ht : t.Ordered) :
    (t.updateChild key f).under key = f (t.under key) := by
  obtain ⟨hkeys, -⟩ := ht
  rename_i ms cs
  rw [updateChild]
  induction cs generalizing ms with
  | nil => rw [updateKey, under_node_cons, if_pos rfl, under_of_not_mem (by simp)]
  | cons child rest ih =>
    obtain ⟨k, t⟩ := child
    rw [List.map_cons, List.pairwise_cons] at hkeys
    rw [updateKey]
    by_cases he : key = k
    · subst he
      rw [if_pos rfl, under_node_cons, under_node_cons, if_pos rfl, if_pos rfl]
    · rw [if_neg he]
      by_cases hlt : key < k
      · have hnot : key ∉ ((k, t) :: rest).map (·.1) := by
          rw [List.map_cons, List.mem_cons, not_or]
          exact ⟨he, fun hm => lt_asymm hlt (hkeys.1 key hm)⟩
        rw [if_pos hlt, under_node_cons, if_pos rfl, under_of_not_mem hnot]
      · rw [if_neg hlt, under_node_cons, under_node_cons, if_neg he, if_neg he,
          @ih [] hkeys.2]

theorem Ordered.updateChild {t : ErrorTree} (ht : t.Ordered)
    (hf : ∀ c : ErrorTree, c.Ordered → (f c).Ordered) : (t.updateChild key f).Ordered := by
  obtain ⟨hkeys, hchildren⟩ := ht
  rename_i ms cs
  have hempty : (f empty).Ordered := hf empty ⟨List.Pairwise.nil, by simp⟩
  rw [ErrorTree.updateChild]
  induction cs generalizing ms with
  | nil => exact ⟨List.pairwise_singleton .., by simpa [updateKey] using hempty⟩
  | cons child rest ih =>
    obtain ⟨k, t⟩ := child
    rw [List.forall_mem_cons] at hchildren
    have hcons := hkeys
    rw [List.map_cons, List.pairwise_cons] at hcons
    rw [updateKey]
    by_cases he : key = k
    · rw [if_pos he]
      exact ⟨hkeys, List.forall_mem_cons.mpr ⟨hf t hchildren.1, hchildren.2⟩⟩
    · rw [if_neg he]
      by_cases hlt : key < k
      · rw [if_pos hlt]
        refine ⟨List.pairwise_cons.mpr ⟨?_, hkeys⟩, ?_⟩
        · intro k' hk'
          rcases List.mem_cons.mp hk' with rfl | hk'
          · exact hlt
          · exact lt_trans hlt (hcons.1 k' hk')
        · exact List.forall_mem_cons.mpr ⟨hempty, List.forall_mem_cons.mpr hchildren⟩
      · rw [if_neg hlt]
        have hrest := @ih [] hcons.2 hchildren.2
        obtain ⟨hkeys', hchildren'⟩ := hrest
        refine ⟨List.pairwise_cons.mpr ⟨?_, hkeys'⟩,
          List.forall_mem_cons.mpr ⟨hchildren.1, hchildren'⟩⟩
        intro k' hk'
        rcases (mem_keys_updateKey rest k').mp hk' with rfl | hk'
        · exact lt_of_le_of_ne (not_lt.mp hlt) (Ne.symm he)
        · exact hcons.1 k' hk'

/-- Changes under one key add to the messages of the whole what they add below the key. -/
theorem flattenAll_updateKey {route : String} {extra : List (String × String)}
    (hf : ∀ t, (flattenFrom (step route key) (f t)).Perm
      (flattenFrom (step route key) t ++ extra)) (cs : List (String × ErrorTree)) :
    (flattenAll route (updateKey key f cs)).Perm (flattenAll route cs ++ extra) := by
  have hnew : (flattenFrom (step route key) (f empty)).Perm extra := hf empty
  induction cs with
  | nil => simpa [updateKey, flattenAll] using hnew
  | cons child rest ih =>
    obtain ⟨k, t⟩ := child
    rw [updateKey]
    by_cases he : key = k
    · subst he
      rw [if_pos rfl, flattenAll, flattenAll]
      calc flattenFrom (step route key) (f t) ++ flattenAll route rest
          ~ flattenFrom (step route key) t ++ extra ++ flattenAll route rest :=
            (hf t).append_right _
        _ ~ flattenFrom (step route key) t ++ flattenAll route rest ++ extra := by
            rw [List.append_assoc, List.append_assoc]
            exact List.perm_append_comm.append_left _
    · rw [if_neg he]
      by_cases hlt : key < k
      · rw [if_pos hlt, flattenAll]
        exact (hnew.append_right _).trans List.perm_append_comm
      · rw [if_neg hlt, flattenAll, flattenAll, List.append_assoc]
        exact ih.append_left _

end

theorem ordered_empty : empty.Ordered := ⟨List.Pairwise.nil, by simp⟩

theorem Ordered.append {t : ErrorTree} (ht : t.Ordered) (ms : List String) :
    (t.append ms).Ordered := by
  obtain ⟨hkeys, hchildren⟩ := ht
  exact ⟨hkeys, hchildren⟩

theorem Ordered.under {t : ErrorTree} (ht : t.Ordered) (key : String) : (t.under key).Ordered := by
  obtain ⟨-, hchildren⟩ := ht
  rename_i ms cs
  rw [ErrorTree.under]
  cases hl : cs.lookup key with
  | none => exact hl ▸ ordered_empty
  | some c =>
    obtain ⟨l, r, rfl, -⟩ := List.lookup_eq_some_iff.mp hl
    rw [children, hl]
    exact hchildren (key, c) (by simp)

theorem Ordered.mergeFor_of {t u : ErrorTree} (ht : t.Ordered) (key : String)
    (hu : ∀ c : ErrorTree, c.Ordered → (c.merge u).Ordered) : (t.mergeFor key u).Ordered := by
  rw [ErrorTree.mergeFor]
  by_cases he : u.isEmpty = true
  · rwa [if_pos he]
  · rw [if_neg he]
    exact ht.updateChild hu

mutual

theorem Ordered.merge {t : ErrorTree} (ht : t.Ordered) : (u : ErrorTree) → (t.merge u).Ordered
  | .node ms cs => (ht.append ms).mergeAll cs

theorem Ordered.mergeAll {t : ErrorTree} (ht : t.Ordered) :
    (cs : List (String × ErrorTree)) → (t.mergeAll cs).Ordered
  | [] => ht
  | (key, u) :: rest => (ht.mergeFor_of key fun _ hc => hc.merge u).mergeAll rest

end

theorem Built.ordered {t : ErrorTree} (h : t.Built) : t.Ordered := by
  induction h with
  | empty => exact ordered_empty
  | add message _ ih => exact ih.append [message]
  | addFor key message _ ih => exact ih.updateChild fun c hc => hc.append [message]
  | mergeFor key _ _ ih _ => exact ih.mergeFor_of key fun c hc => hc.merge _

/-! Merging at each path. -/

theorem messagesAt_of_isEmpty {t : ErrorTree} (h : t.isEmpty = true) (path : List String) :
    t.messagesAt path = [] := by
  induction path generalizing t with
  | nil =>
    obtain ⟨ms, cs⟩ := t
    rw [isEmpty, Bool.and_eq_true, List.isEmpty_iff] at h
    exact h.1
  | cons key path ih =>
    refine ih ?_
    obtain ⟨ms, cs⟩ := t
    rw [isEmpty, Bool.and_eq_true] at h
    replace h := h.2
    induction cs with
    | nil => rfl
    | cons child rest ihc =>
      rw [allEmpty, Bool.and_eq_true] at h
      rw [under_node_cons]
      by_cases hk : key = child.1
      · rw [if_pos hk]
        exact h.1
      · rw [if_neg hk]
        exact ihc h.2

/-- What merging a tree does at each path, merging it under a key does below the key. -/
theorem messagesAt_mergeFor_of {t u : ErrorTree} (ht : t.Ordered) (key : String)
    (hu : ∀ (c : ErrorTree) (path : List String), c.Ordered →
      (c.merge u).messagesAt path = c.messagesAt path ++ u.messagesAt path)
    (path : List String) :
    (t.mergeFor key u).messagesAt path =
      t.messagesAt path ++ (node [] [(key, u)]).messagesAt path := by
  rw [mergeFor]
  by_cases he : u.isEmpty = true
  · have hnone : (node [] [(key, u)]).isEmpty = true := by simp [isEmpty, allEmpty, he]
    rw [if_pos he, messagesAt_of_isEmpty hnone, List.append_nil]
  · rw [if_neg he]
    cases path with
    | nil =>
      cases t
      exact (List.append_nil _).symm
    | cons k path =>
      rw [messagesAt_cons, messagesAt_cons, messagesAt_cons, under_node_cons]
      by_cases hk : k = key
      · subst hk
        rw [under_updateChild_self ht, hu _ path (ht.under k), if_pos rfl]
      · rw [under_updateChild_of_ne t hk, if_neg hk]
        rw [under_of_not_mem (by simp), messagesAt_empty, List.append_nil]

mutual

theorem messagesAt_merge {t : ErrorTree} (ht : t.Ordered) :
    (u : ErrorTree) → u.Ordered → (path : List String) →
      (t.merge u).messagesAt path = t.messagesAt path ++ u.messagesAt path
  | .node ms cs, ⟨keys, children⟩, path => by
    rw [merge, messagesAt_mergeAll (ht.append ms) cs keys children]
    cases path with
    | nil =>
      rw [messagesAt_nil, messagesAt_nil, messagesAt_nil, messagesAt_nil]
      exact List.append_nil _
    | cons key path => rfl

theorem messagesAt_mergeAll {t : ErrorTree} (ht : t.Ordered) :
    (cs : List (String × ErrorTree)) → (cs.map (·.1)).Pairwise (· < ·) →
      (∀ c ∈ cs, Ordered c.2) → (path : List String) →
      (t.mergeAll cs).messagesAt path = t.messagesAt path ++ (node [] cs).messagesAt path
  | [], _, _, path => by
    rw [mergeAll, show node [] [] = empty from rfl, messagesAt_empty, List.append_nil]
  | (key, u) :: rest, keys, children, path => by
    rw [List.map_cons, List.pairwise_cons] at keys
    rw [List.forall_mem_cons] at children
    have hmerge (c : ErrorTree) (path : List String) (hc : c.Ordered) :=
      messagesAt_merge hc u children.1 path
    have hnext : (t.mergeFor key u).Ordered := ht.mergeFor_of key fun _ hc => hc.merge u
    have hrest := messagesAt_mergeAll hnext rest keys.2 children.2 path
    rw [mergeFor] at hrest
    rw [mergeAll, hrest, ← mergeFor, messagesAt_mergeFor_of ht key hmerge, List.append_assoc]
    congr 1
    cases path with
    | nil => rfl
    | cons k path =>
      rw [messagesAt_cons, messagesAt_cons, messagesAt_cons, under_node_cons, under_node_cons]
      by_cases hk : k = key
      · have hnot : key ∉ rest.map (·.1) := fun hm => lt_irrefl key (keys.1 key hm)
        rw [if_pos hk, if_pos hk, hk, under_of_not_mem hnot, messagesAt_empty, List.append_nil]
      · rw [if_neg hk, if_neg hk, under_of_not_mem (by simp), messagesAt_empty, List.nil_append]

end

theorem messagesAt_mergeFor {t u : ErrorTree} (ht : t.Ordered) (hu : u.Ordered) (key : String)
    (path : List String) :
    (t.mergeFor key u).messagesAt path =
      t.messagesAt path ++ (node [] [(key, u)]).messagesAt path :=
  messagesAt_mergeFor_of ht key (fun _ path hc => messagesAt_merge hc u hu path) path

/-! Flattening. -/

mutual

/-- Every message is flattened once. -/
theorem length_flattenFrom (route : String) :
    (t : ErrorTree) → (flattenFrom route t).length = t.size
  | .node ms cs => by
    rw [flattenFrom, List.length_append, List.length_map, length_flattenAll route cs, size_node]

theorem length_flattenAll (route : String) :
    (cs : List (String × ErrorTree)) → (flattenAll route cs).length = totalSize cs
  | [] => by rw [flattenAll, totalSize_nil, List.length_nil]
  | (key, t) :: rest => by
    rw [flattenAll, List.length_append, length_flattenFrom (step route key) t,
      length_flattenAll route rest, totalSize_cons]

end

mutual

/-- The messages themselves do not depend on the route of the tree. -/
theorem messages_flattenFrom (route route' : String) :
    (t : ErrorTree) → (flattenFrom route t).map (·.2) = (flattenFrom route' t).map (·.2)
  | .node ms cs => by
    rw [flattenFrom, flattenFrom, List.map_append, List.map_append, List.map_map, List.map_map,
      messages_flattenAll route route' cs]
    rfl

theorem messages_flattenAll (route route' : String) :
    (cs : List (String × ErrorTree)) →
      (flattenAll route cs).map (·.2) = (flattenAll route' cs).map (·.2)
  | [] => by rw [flattenAll, flattenAll]
  | (key, t) :: rest => by
    rw [flattenAll, flattenAll, List.map_append, List.map_append,
      messages_flattenFrom (step route key) (step route' key) t,
      messages_flattenAll route route' rest]

end

theorem flattenFrom_eq_nil {t : ErrorTree} (route : String) :
    flattenFrom route t = [] ↔ t.isEmpty = true := by
  rw [isEmpty_iff, ← length_flattenFrom route, List.length_eq_zero_iff]

theorem flattenFrom_append (route : String) (t : ErrorTree) (ms : List String) :
    (flattenFrom route (t.append ms)).Perm (flattenFrom route t ++ ms.map (route, ·)) := by
  obtain ⟨ms', cs⟩ := t
  rw [append, flattenFrom, flattenFrom, messages, children, List.map_append, List.append_assoc,
    List.append_assoc]
  exact List.perm_append_comm.append_left _

theorem flattenFrom_mergeFor_of {route key : String} {t u : ErrorTree}
    (hu : ∀ c : ErrorTree, (flattenFrom (step route key) (c.merge u)).Perm
      (flattenFrom (step route key) c ++ flattenFrom (step route key) u)) :
    (flattenFrom route (t.mergeFor key u)).Perm
      (flattenFrom route t ++ flattenFrom (step route key) u) := by
  rw [mergeFor]
  by_cases he : u.isEmpty = true
  · rw [if_pos he, (flattenFrom_eq_nil _).mpr he, List.append_nil]
  · obtain ⟨ms, cs⟩ := t
    rw [if_neg he, updateChild, flattenFrom, flattenFrom, List.append_assoc]
    exact (flattenAll_updateKey hu cs).append_left _

mutual

/-- Merging adds the messages of a tree below the same route, whatever the shape of both. -/
theorem flattenFrom_merge (route : String) (t : ErrorTree) :
    (u : ErrorTree) →
      (flattenFrom route (t.merge u)).Perm (flattenFrom route t ++ flattenFrom route u)
  | .node ms cs => by
    have happend := flattenFrom_append route t ms
    have hcs := flattenAll_mergeAll route (t.append ms) cs
    rw [merge, flattenFrom, ← List.append_assoc]
    exact hcs.trans (happend.append_right _)

theorem flattenAll_mergeAll (route : String) (t : ErrorTree) :
    (cs : List (String × ErrorTree)) →
      (flattenFrom route (t.mergeAll cs)).Perm (flattenFrom route t ++ flattenAll route cs)
  | [] => by rw [mergeAll, flattenAll, List.append_nil]
  | (key, u) :: rest => by
    have hnext : (flattenFrom route (t.mergeFor key u)).Perm
        (flattenFrom route t ++ flattenFrom (step route key) u) :=
      flattenFrom_mergeFor_of fun c => flattenFrom_merge (step route key) c u
    have hrest := flattenAll_mergeAll route (t.mergeFor key u) rest
    rw [mergeFor] at hrest
    rw [mergeAll, flattenAll, ← List.append_assoc]
    exact hrest.trans (by rw [← mergeFor]; exact hnext.append_right _)

end

/-- What a path leads to is flattened under the route that the path spells. -/
theorem sublist_flattenFrom (t : ErrorTree) (route : String) (path : List String) :
    ((t.messagesAt path).map (path.foldl step route, ·)).Sublist (flattenFrom route t) := by
  induction path generalizing t route with
  | nil =>
    obtain ⟨ms, cs⟩ := t
    rw [flattenFrom]
    exact List.sublist_append_left _ _
  | cons key path ih =>
    obtain ⟨ms, cs⟩ := t
    rw [flattenFrom, messagesAt_cons, List.foldl_cons]
    refine List.Sublist.trans ?_ (List.sublist_append_right _ _)
    induction cs generalizing ms with
    | nil => rw [under_of_not_mem (by simp), messagesAt_empty]; exact List.nil_sublist _
    | cons child rest ihc =>
      rw [under_node_cons, flattenAll]
      by_cases hk : key = child.1
      · rw [if_pos hk, ← hk]
        exact (ih child.2 (step route key)).trans (List.sublist_append_left _ _)
      · rw [if_neg hk]
        exact (ihc []).trans (List.sublist_append_right _ _)

/-- Merging a tree under a key loses nothing and repeats nothing. At every path, the messages are
those that were there and behind them, where the path starts with the key, those of the merged tree
at the rest of the path. So sizes add up, and the messages of the whole are the messages of both,
the merged ones routed through the key. What a path leads to is flattened under its route, each
message once, and the four ways to ask whether anything was reported agree. -/
theorem mergeFor_keeps_messages {t u : ErrorTree} (ht : t.Built) (hu : u.Built) (key : String) :
    (∀ path, (t.mergeFor key u).messagesAt (key :: path) =
      t.messagesAt (key :: path) ++ u.messagesAt path) ∧
    (∀ path, ¬[key] <+: path → (t.mergeFor key u).messagesAt path = t.messagesAt path) ∧
    (t.mergeFor key u).size = t.size + u.size ∧
    (t.mergeFor key u).flatten.Perm (t.flatten ++ flattenFrom key u) ∧
    ((t.mergeFor key u).flatten.map (·.2)).Perm
      (t.flatten.map (·.2) ++ u.flatten.map (·.2)) ∧
    (∀ path, ((t.messagesAt path).map (path.foldl step "", ·)).Sublist t.flatten) ∧
    t.size = t.flatten.length ∧
    [t.isEmpty = true, t.size = 0, t.flatten = [], t.result = .ok ()].TFAE := by
  have hat := messagesAt_mergeFor ht.ordered hu.ordered key
  have hflat : (t.mergeFor key u).flatten.Perm (t.flatten ++ flattenFrom key u) :=
    flattenFrom_mergeFor_of fun c => flattenFrom_merge (step "" key) c u
  refine ⟨?_, ?_, size_mergeFor t key u, hflat, ?_, sublist_flattenFrom t "",
    (length_flattenFrom "" t).symm, ?_⟩
  · intro path
    rw [hat, messagesAt_cons (node [] [(key, u)]), under_node_cons, if_pos rfl]
  · intro path hpath
    rw [hat]
    cases path with
    | nil => exact List.append_nil _
    | cons k path =>
      have hk : k ≠ key := fun he => hpath (he ▸ ⟨path, rfl⟩)
      rw [messagesAt_cons (node [] [(key, u)]), under_node_cons, if_neg hk,
        under_of_not_mem (by simp), messagesAt_empty, List.append_nil]
  · have hmap := hflat.map (·.2)
    rwa [List.map_append, messages_flattenFrom key "" u] at hmap
  · tfae_have 1 ↔ 2 := isEmpty_iff t
    tfae_have 3 ↔ 1 := flattenFrom_eq_nil ""
    tfae_have 4 ↔ 2 := result_eq_ok
    tfae_finish

/-- Messages at the root and under one entity. -/
def sampleTree : ErrorTree := (empty.add "root problem").addFor "Task" "bad property"

/-- Messages of one entity, one of them a step further down. -/
def sampleBranch : ErrorTree := (empty.addFor "text" "name is long").add "no identifier"

theorem mergeFor_keeps_messages_task :
    sampleTree.Built ∧ sampleBranch.Built ∧
      (sampleTree.mergeFor "Task" sampleBranch).messagesAt ["Task"] =
        ["bad property", "no identifier"] ∧
      (sampleTree.mergeFor "Task" sampleBranch).messagesAt ["Task", "text"] = ["name is long"] ∧
      (sampleTree.mergeFor "Task" sampleBranch).messagesAt [] = ["root problem"] ∧
      (sampleTree.mergeFor "Task" sampleBranch).size = 4 := by
  have ht : sampleTree.Built := (Built.empty.add _).addFor _ _
  have hu : sampleBranch.Built := (Built.empty.addFor _ _).add _
  obtain ⟨hat, hother, hsize, -⟩ := mergeFor_keeps_messages ht hu "Task"
  refine ⟨ht, hu, ?_, ?_, ?_, ?_⟩
  · rw [hat]
    decide +kernel
  · rw [hat]
    decide +kernel
  · rw [hother [] (by decide)]
    decide +kernel
  · rw [hsize]
    decide +kernel

end RecordStore.ErrorTree

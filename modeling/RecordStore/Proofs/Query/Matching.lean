import RecordStore.Proofs.Query.Selection
import RecordStore.Proofs.Store.Client

/-! What a query finds among the rows of a binding, and what a page of it is. -/
namespace RecordStore

open Buffer

theorem filterM_ok {ε α : Type} {test : α → Except ε Bool} {p : α → Bool} {xs : List α}
    (h : ∀ x ∈ xs, test x = .ok (p x)) : xs.filterM test = .ok (xs.filter p) := by
  have haux (xs acc : List α) (h : ∀ x ∈ xs, test x = .ok (p x)) :
      xs.filterAuxM test acc = .ok ((xs.filter p).reverse ++ acc) := by
    induction xs generalizing acc with
    | nil => rfl
    | cons x xs ih =>
      have hrest := fun acc => ih acc fun y hy => h y (List.mem_cons_of_mem _ hy)
      rw [List.filterAuxM, h x List.mem_cons_self, ok_bind, hrest, List.filter_cons]
      cases p x <;> simp
  rw [List.filterM, haux xs [] h, ok_bind]
  simp

theorem length_le_of_ascending {xs : List UInt64} (h : xs.Pairwise (· < ·)) {low : Nat}
    (hlow : ∀ x ∈ xs, low ≤ x.toNat) : xs.length + low ≤ UInt64.size ∨ xs = [] := by
  induction xs generalizing low with
  | nil => exact .inr rfl
  | cons x xs ih =>
    rw [List.pairwise_cons] at h
    have hx := hlow x List.mem_cons_self
    have hlt := x.toNat_lt
    have hrest := @ih h.2 (x.toNat + 1) fun y hy => UInt64.lt_iff_toNat_lt.mp (h.1 y hy)
    left
    rw [List.length_cons]
    rcases hrest with hrest | rfl
    · omega
    · simp only [List.length_nil, UInt64.size]
      omega

namespace Cursor

theorem page_map {α β : Type} (f : α → β) (offset limit : UInt64) (xs : List α) :
    page offset limit (xs.map f) = (page offset limit xs).map f := by
  rw [page, page]
  by_cases h : limit = 0
  · simp only [if_pos h, List.map_drop]
  · simp only [if_neg h, List.map_drop, List.map_take]

/-- The page of a query without options is all of it. -/
theorem page_whole {α : Type} (xs : List α) : page 0 0 xs = xs := rfl

end Cursor

namespace Query

/-- Both ways to cut a page agree, since no list is longer than 64 bits can count. -/
theorem paginate_eq {α : Type} {xs : List α} (h : xs.length < UInt64.size)
    (offset limit : UInt64) : paginate offset limit xs = Cursor.page offset limit xs := by
  have hstart : xs.drop (min offset.toNat xs.length) = xs.drop offset.toNat := by
    by_cases hle : offset.toNat ≤ xs.length
    · rw [Nat.min_eq_left hle]
    · rw [Nat.min_eq_right (by omega), List.drop_length, List.drop_of_length_le (by omega)]
  rw [paginate, Cursor.page]
  by_cases hz : offset = 0 ∧ limit = 0
  · rw [if_pos hz, hz.1, hz.2, if_pos rfl]
    rfl
  · rw [if_neg hz]
    by_cases hl : limit = 0
    · simp only [if_pos hl, List.take_length, hstart]
    · simp only [if_neg hl]
      rw [List.drop_take, hstart]
      rw [List.take_eq_take_iff, List.length_drop]
      omega

end Query

namespace Binding

variable {b : Binding} {conditions : List Condition}

/-- Whether a row holds a record that meets conditions. -/
def admits (b : Binding) (conditions : List Condition) (bytes : ByteArray) : Bool :=
  match b.decode bytes with
  | .ok r => conditions.all (b.meets r)
  | .error _ => false

/-- The records that meet conditions with their ids, in the order of the ids. -/
def select (b : Binding) (conditions : List Condition) (rows : Rows) :
    List (UInt64 × Record b.types) :=
  rows.entries.toList.filterMap fun row =>
    match b.decode row.2 with
    | .ok r => if conditions.all (b.meets r) then some (row.1, r) else none
    | .error _ => none

/-- The rows that are admitted hold the selected records. -/
theorem map_admitted (b : Binding) (conditions : List Condition) (rows : Rows) :
    (rows.entries.toList.filter fun row => b.admits conditions row.2).map
        (fun row => (row.1, b.decode row.2)) =
      (b.select conditions rows).map fun entry => (entry.1, .ok entry.2) := by
  rw [select]
  induction rows.entries.toList with
  | nil => rfl
  | cons row rest ih =>
    rw [List.filter_cons, List.filterMap_cons, admits]
    cases hd : b.decode row.2 with
    | error e => simpa using ih
    | ok r =>
      by_cases hm : conditions.all (b.meets r) = true
      · simp only [hm, if_true, List.map_cons, ih, hd]
      · simp only [hm, Bool.false_eq_true, if_false, ih]

theorem ids_admitted (b : Binding) (conditions : List Condition) (rows : Rows) :
    (rows.entries.toList.filter fun row => b.admits conditions row.2).map (·.1) =
      (b.select conditions rows).map (·.1) := by
  have h := congrArg (fun xs => xs.map (·.1)) (b.map_admitted conditions rows)
  simpa only [List.map_map, Function.comp_def] using h

theorem length_admitted (b : Binding) (conditions : List Condition) (rows : Rows) :
    (rows.entries.toList.filter fun row => b.admits conditions row.2).length =
      (b.select conditions rows).length := by
  have h := congrArg List.length (b.ids_admitted conditions rows)
  simpa using h

/-- The records of a page of the admitted rows are a page of the selected records. -/
theorem decodeAll_page (b : Binding) (conditions : List Condition) (rows : Rows)
    (offset limit : UInt64) :
    b.decodeAll (Cursor.page offset limit
        ((rows.entries.toList.filter fun row => b.admits conditions row.2).map (·.2))) =
      .ok (Cursor.page offset limit ((b.select conditions rows).map (·.2))) := by
  have h := congrArg (fun xs => Cursor.page offset limit (xs.map (·.2)))
    (b.map_admitted conditions rows)
  simp only [List.map_map, Function.comp_def] at h
  rw [decodeAll, mapM_eq_ok, ← Cursor.page_map, ← Cursor.page_map, List.map_map, List.map_map]
  exact h

theorem mem_select {rows : Rows} {id : UInt64} {r : Record b.types} :
    (id, r) ∈ b.select conditions rows ↔
      (∃ bytes, rows.entries[id]? = some bytes ∧ b.decode bytes = .ok r) ∧
        ∀ c ∈ conditions, b.meets r c = true := by
  rw [select, List.mem_filterMap]
  constructor
  · rintro ⟨⟨k, bytes⟩, hrow, hsome⟩
    cases hd : b.decode bytes with
    | error e => simp [hd] at hsome
    | ok r' =>
      simp only [hd, Option.ite_none_right_eq_some, Option.some.injEq, Prod.mk.injEq] at hsome
      obtain ⟨hall, rfl, rfl⟩ := hsome
      exact ⟨⟨bytes, Std.ExtTreeMap.mem_toList_iff_getElem?_eq_some.mp hrow, hd⟩,
        List.all_eq_true.mp hall⟩
  · rintro ⟨⟨bytes, hrow, hd⟩, hall⟩
    refine ⟨(id, bytes), Std.ExtTreeMap.mem_toList_iff_getElem?_eq_some.mpr hrow, ?_⟩
    simp only [hd]
    rw [if_pos (List.all_eq_true.mpr hall)]

theorem mem_ids_select {rows : Rows} {id : UInt64} :
    id ∈ (b.select conditions rows).map (·.1) ↔
      ∃ bytes, rows.entries[id]? = some bytes ∧ b.admits conditions bytes = true := by
  simp [← ids_admitted, Std.ExtTreeMap.mem_toList_iff_getElem?_eq_some]

theorem pairwise_select (b : Binding) (conditions : List Condition) (rows : Rows) :
    ((b.select conditions rows).map (·.1)).Pairwise (· < ·) := by
  rw [← ids_admitted, List.pairwise_map]
  refine List.Pairwise.filter _ (Std.ExtTreeMap.ordered_keys_toList.imp ?_)
  intro x y h
  exact compareOfLessAndEq_eq_lt.mp h

/-- Fewer records are selected than 64 bits can count, since none has the id zero. -/
theorem length_select {rows : Rows} (h : rows.All b.Stores) :
    (b.select conditions rows).length < UInt64.size := by
  have hone : ∀ x ∈ (b.select conditions rows).map (·.1), 1 ≤ x.toNat := by
    intro x hx
    obtain ⟨⟨id, r⟩, he, rfl⟩ := List.mem_map.mp hx
    obtain ⟨⟨bytes, hrow, -⟩, -⟩ := mem_select.mp he
    have hne : id.toNat ≠ 0 := fun e => (h id bytes hrow).1 (UInt64.toNat_inj.mp e)
    exact Nat.one_le_iff_ne_zero.mpr hne
  rcases length_le_of_ascending (b.pairwise_select conditions rows) hone with hle | hnil
  · rw [List.length_map] at hle
    exact hle
  · rw [List.map_eq_nil_iff.mp hnil, List.length_nil]
    decide

section

variable (hb : b.WellFormed) (hs : b.StoredByType) {c : Cursor} (he : c.entity = b.modelEntity)
  (hc : ∀ condition ∈ conditions, b.modelEntity.accept condition = .ok ())
include hb hs he hc

/-- Accepted conditions never fail on a row that holds a record. -/
theorem selects_eq {row : UInt64 × ByteArray} (hrow : ∃ r, b.decode row.2 = .ok r) :
    c.selects conditions row = .ok (b.admits conditions row.2) := by
  obtain ⟨r, hd⟩ := hrow
  rw [admits, hd]
  obtain ⟨table, hroot, hread⟩ := bind_eq_ok.mp hd
  rw [Cursor.selects, hroot, he]
  exact satisfiesAll_eq hb hs hread hc

theorem matching_eq (hrows : c.rows.All b.Stores) {handle : UInt64}
    (hq : c.queries.compiled handle = .ok ⟨b.entity.id, conditions⟩) :
    c.matching handle =
      .ok (c.rows.entries.toList.filter fun row => b.admits conditions row.2) := by
  have hquery : c.query handle = .ok ⟨b.entity.id, conditions⟩ := by
    rw [Cursor.query, hq, he]
    exact if_pos rfl
  rw [Cursor.matching, hquery, ok_bind]
  refine filterM_ok fun row hrow => selects_eq hb hs he hc ?_
  exact (hrows row.1 row.2 (Std.ExtTreeMap.mem_toList_iff_getElem?_eq_some.mp hrow)).2

end

end Binding

end RecordStore

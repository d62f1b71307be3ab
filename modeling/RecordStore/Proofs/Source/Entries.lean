import RecordStore.Source.Folder

/-! What stands under each name of a folder after an entry was put or some were taken out. Folders
in the order of their names are told apart by what stands under the names. -/
namespace RecordStore.Folder

variable {f g : Folder} {name other : String} {entry : FolderEntry}

theorem get?_cons_self (f : Folder) : get? ((name, entry) :: f) name = some entry :=
  List.lookup_cons_self

theorem get?_cons_of_ne (h : other ≠ name) (f : Folder) :
    get? ((name, entry) :: f) other = f.get? other := by
  rw [get?, List.lookup_cons, beq_eq_false_iff_ne.mpr h]
  rfl

theorem get?_put_self (f : Folder) : (f.put name entry).get? name = some entry := by
  induction f with
  | nil => exact get?_cons_self []
  | cons first rest ih =>
    obtain ⟨n, e⟩ := first
    rw [put]
    by_cases hn : name = n
    · rw [if_pos hn, get?_cons_self]
    · rw [if_neg hn]
      by_cases hl : name < n
      · rw [if_pos hl, get?_cons_self]
      · rw [if_neg hl, get?_cons_of_ne hn, ih]

theorem get?_put_of_ne (h : other ≠ name) (f : Folder) :
    (f.put name entry).get? other = f.get? other := by
  induction f with
  | nil => exact get?_cons_of_ne h []
  | cons first rest ih =>
    obtain ⟨n, e⟩ := first
    rw [put]
    by_cases hn : name = n
    · rw [if_pos hn, get?_cons_of_ne h, get?_cons_of_ne (hn ▸ h)]
    · rw [if_neg hn]
      by_cases hl : name < n
      · rw [if_pos hl, get?_cons_of_ne h]
      · rw [if_neg hl]
        by_cases ho : other = n
        · rw [ho, get?_cons_self, get?_cons_self]
        · rw [get?_cons_of_ne ho, get?_cons_of_ne ho, ih]

theorem mem_put {x : String × FolderEntry} (h : x ∈ f.put name entry) :
    x = (name, entry) ∨ x ∈ f := by
  induction f with
  | nil => exact .inl (List.mem_singleton.mp h)
  | cons first rest ih =>
    obtain ⟨n, e⟩ := first
    rw [put] at h
    by_cases hn : name = n
    · rw [if_pos hn, List.mem_cons] at h
      exact h.imp_right (List.mem_cons_of_mem _)
    · rw [if_neg hn] at h
      by_cases hl : name < n
      · rw [if_pos hl, List.mem_cons] at h
        exact h
      · rw [if_neg hl, List.mem_cons] at h
        rcases h with h | h
        · exact .inr (h ▸ List.mem_cons_self)
        · exact (ih h).imp_right (List.mem_cons_of_mem _)

/-- The entries stand in the order of their names, one under each. -/
def Ordered (f : Folder) : Prop := f.Pairwise fun x y => x.1 < y.1

instance (f : Folder) : Decidable f.Ordered :=
  inferInstanceAs (Decidable (f.Pairwise fun x y => x.1 < y.1))

namespace Ordered

theorem nil : Ordered [] := List.Pairwise.nil

theorem filter (h : f.Ordered) (keep : String × FolderEntry → Bool) : Ordered (f.filter keep) :=
  List.Pairwise.filter keep h

theorem put (h : f.Ordered) (name : String) (entry : FolderEntry) : (f.put name entry).Ordered := by
  induction f with
  | nil => exact List.pairwise_singleton _ _
  | cons first rest ih =>
    obtain ⟨n, e⟩ := first
    obtain ⟨hfirst, hrest⟩ := List.pairwise_cons.mp h
    rw [Folder.put]
    by_cases hn : name = n
    · rw [if_pos hn]
      exact List.pairwise_cons.mpr ⟨fun x hx => hn ▸ hfirst x hx, hrest⟩
    · rw [if_neg hn]
      by_cases hl : name < n
      · rw [if_pos hl]
        refine List.pairwise_cons.mpr ⟨fun x hx => ?_, h⟩
        rcases List.mem_cons.mp hx with rfl | hx
        · exact hl
        · exact String.lt_trans hl (hfirst x hx)
      · rw [if_neg hl]
        refine List.pairwise_cons.mpr ⟨fun x hx => ?_, ih hrest⟩
        rcases mem_put hx with rfl | hx
        · exact Decidable.byContradiction fun hg =>
            hn (String.le_antisymm (String.not_lt.mp hg) (String.not_lt.mp hl))
        · exact hfirst x hx

/-- No later entry has the name of the first. -/
theorem get?_tail (h : Ordered ((name, entry) :: f)) : f.get? name = none := by
  rw [get?, List.lookup_eq_none_iff]
  intro x hx
  rw [bne_iff_ne]
  exact fun he => String.lt_irrefl _ (he ▸ (List.pairwise_cons.mp h).1 x hx)

/-- What is left under a name when only some entries are kept. -/
theorem get?_filter (h : f.Ordered) (keep : String × FolderEntry → Bool) (name : String) :
    get? (f.filter keep) name = (f.get? name).filter fun entry => keep (name, entry) := by
  induction f with
  | nil => rfl
  | cons first rest ih =>
    obtain ⟨n, e⟩ := first
    obtain ⟨-, hrest⟩ := List.pairwise_cons.mp h
    rw [List.filter_cons]
    by_cases hn : name = n
    · subst hn
      rw [get?_cons_self]
      by_cases hk : keep (name, e) = true
      · rw [if_pos hk, get?_cons_self, Option.filter_some, if_pos hk]
      · rw [if_neg hk, ih hrest, h.get?_tail, Option.filter_some, if_neg hk]
        rfl
    · rw [get?_cons_of_ne hn, ← ih hrest]
      by_cases hk : keep (n, e) = true
      · rw [if_pos hk, get?_cons_of_ne hn]
      · rw [if_neg hk]

/-- Nothing stands under a name that comes before the first. -/
theorem get?_of_lt (h : Ordered ((name, entry) :: f)) (hl : other < name) :
    get? ((name, entry) :: f) other = none := by
  rw [get?, List.lookup_eq_none_iff]
  intro x hx
  rw [bne_iff_ne]
  rintro rfl
  rcases List.mem_cons.mp hx with rfl | hx
  · exact String.lt_irrefl _ hl
  · exact String.lt_asymm hl ((List.pairwise_cons.mp h).1 x hx)

/-- Folders in order are the same if the same stands under every name. -/
theorem ext (hf : f.Ordered) (hg : g.Ordered) (h : ∀ name, f.get? name = g.get? name) : f = g := by
  induction f generalizing g with
  | nil =>
    cases g with
    | nil => rfl
    | cons first rest =>
      have hfirst := h first.1
      rw [get?_cons_self] at hfirst
      cases hfirst
  | cons first rest ih =>
    obtain ⟨n, e⟩ := first
    cases g with
    | nil =>
      have hfirst := h n
      rw [get?_cons_self] at hfirst
      cases hfirst
    | cons first' rest' =>
      obtain ⟨n', e'⟩ := first'
      have hn : n = n' := by
        refine String.le_antisymm (String.not_lt.mp fun hl => ?_) (String.not_lt.mp fun hl => ?_)
        · have hno := h n'
          rw [get?_cons_self, hf.get?_of_lt hl] at hno
          cases hno
        · have hno := h n
          rw [get?_cons_self, hg.get?_of_lt hl] at hno
          cases hno
      subst hn
      have he : e = e' := by
        have hfirst := h n
        rw [get?_cons_self, get?_cons_self] at hfirst
        exact Option.some.inj hfirst
      rw [he, ih (List.pairwise_cons.mp hf).2 (List.pairwise_cons.mp hg).2]
      intro name
      by_cases hname : name = n
      · rw [hname, hf.get?_tail, hg.get?_tail]
      · have hrest := h name
        rwa [get?_cons_of_ne hname, get?_cons_of_ne hname] at hrest

end Ordered

end RecordStore.Folder

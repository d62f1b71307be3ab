import RecordStore.Text.Blank

/-! Texts and the blanks at their ends: what trimming leaves, told without how it is done. -/
namespace RecordStore.Text

theorem trimEnd_append_blanks (s : List Char) {blanks : List Char}
    (h : ∀ c ∈ blanks, isBlank c = true) : trimEnd (s ++ blanks) = trimEnd s := by
  rw [trimEnd, List.reverse_append, List.dropWhile_append_of_pos, trimEnd]
  exact fun c hc => h c (List.mem_reverse.mp hc)

/-- A text is what is left without the blanks at its end, and those blanks. -/
theorem exists_trimEnd_append (s : List Char) :
    ∃ blanks, (∀ c ∈ blanks, isBlank c = true) ∧ s = trimEnd s ++ blanks := by
  refine ⟨(s.reverse.takeWhile isBlank).reverse, ?_, ?_⟩
  · intro c hc
    exact List.all_eq_true.mp List.all_takeWhile c (List.mem_reverse.mp hc)
  · rw [trimEnd, ← List.reverse_append, List.takeWhile_append_dropWhile, List.reverse_reverse]

/-- A text that neither starts nor ends with a blank. -/
structure Bare (t : List Char) : Prop where
  head : ∀ c ∈ t.head?, isBlank c = false
  last : ∀ c ∈ t.getLast?, isBlank c = false

/-- One text is another without the blanks at its ends. -/
def Trims (s t : List Char) : Prop :=
  ∃ before after, (∀ c ∈ before, isBlank c = true) ∧ (∀ c ∈ after, isBlank c = true) ∧
    s = before ++ (t ++ after) ∧ Bare t

/-- Where blanks were dropped, another character comes next. -/
theorem isBlank_of_mem_head?_dropWhile {s : List Char} {c : Char}
    (h : c ∈ (s.dropWhile isBlank).head?) : isBlank c = false := by
  have hhead := List.head?_dropWhile_not isBlank s
  rwa [Option.mem_def.mp h] at hhead

theorem isBlank_of_mem_getLast?_trimEnd {s : List Char} {c : Char}
    (h : c ∈ (trimEnd s).getLast?) : isBlank c = false := by
  rw [trimEnd, List.getLast?_reverse] at h
  exact isBlank_of_mem_head?_dropWhile h

theorem bare_trim (s : List Char) : Bare (trim s) where
  head := by
    intro c hc
    obtain ⟨blanks, -, hs⟩ := exists_trimEnd_append (s.dropWhile isBlank)
    refine isBlank_of_mem_head?_dropWhile (s := s) ?_
    rw [hs, List.head?_append]
    rw [trim, Option.mem_def] at hc
    rw [hc]
    rfl
  last := fun c hc => isBlank_of_mem_getLast?_trimEnd hc

theorem Bare.dropWhile_eq {t : List Char} (h : Bare t) : t.dropWhile isBlank = t := by
  cases t with
  | nil => rfl
  | cons c t => exact List.dropWhile_cons_of_neg (by simp [h.head c rfl])

theorem Bare.trimEnd_eq {t : List Char} (h : Bare t) : trimEnd t = t := by
  have hreverse : Bare t.reverse :=
    ⟨by simpa using h.last, by simpa using h.head⟩
  rw [trimEnd, hreverse.dropWhile_eq, List.reverse_reverse]

/-- Trimming takes the blanks off both ends, and nothing else. -/
theorem trim_eq_iff {s t : List Char} : trim s = t ↔ Trims s t := by
  constructor
  · rintro rfl
    obtain ⟨after, hafter, hs⟩ := exists_trimEnd_append (s.dropWhile isBlank)
    refine ⟨s.takeWhile isBlank, after, ?_, hafter, ?_, bare_trim s⟩
    · exact fun c hc => List.all_eq_true.mp List.all_takeWhile c hc
    · rw [trim, ← hs, List.takeWhile_append_dropWhile]
  · rintro ⟨before, after, hbefore, hafter, rfl, hbare⟩
    rw [trim, List.dropWhile_append_of_pos hbefore]
    cases t with
    | nil =>
      rw [List.nil_append, ← List.append_nil after, List.dropWhile_append_of_pos hafter]
      rfl
    | cons c t =>
      rw [List.cons_append, List.dropWhile_cons_of_neg (by simp [hbare.head c rfl]),
        ← List.cons_append, trimEnd_append_blanks _ hafter, hbare.trimEnd_eq]

end RecordStore.Text

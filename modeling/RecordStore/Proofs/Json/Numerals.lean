import Mathlib.Data.List.TakeWhile
import RecordStore.Json.Lexeme
import RecordStore.Proofs.Outcome

/-! The numbers of the format: which texts are numbers, and that the reader takes just these, each
as far as it goes. -/
namespace RecordStore.Json

/-- One or more digits. -/
def IsDigits (ds : List Char) : Prop := ds ≠ [] ∧ ∀ c ∈ ds, c.isDigit = true

/-- Digits before a point, where a zero only stands alone. -/
def IsWhole (ds : List Char) : Prop := IsDigits ds ∧ (ds.head? = some '0' → ds = ['0'])

/-- Digits with a point in front, or nothing. -/
inductive PointWritten : List Char → List Char → Prop
  | none : PointWritten [] []
  | digits {ds : List Char} : IsDigits ds → PointWritten ds ('.' :: ds)

inductive SignWritten : Bool → List Char → Prop
  | none : SignWritten false []
  | plus : SignWritten false ['+']
  | minus : SignWritten true ['-']

inductive ExponentWritten : Option (Bool × List Char) → List Char → Prop
  | none : ExponentWritten none []
  | digits {mark : Char} {negative : Bool} {sign ds : List Char} : mark = 'e' ∨ mark = 'E' →
      SignWritten negative sign → IsDigits ds →
      ExponentWritten (some (negative, ds)) (mark :: (sign ++ ds))

/-- The text is the number without its minus sign. -/
def Numeral.Written (n : Numeral) (s : List Char) : Prop :=
  ∃ point exponent, IsWhole n.whole ∧ PointWritten n.fraction point ∧
    ExponentWritten n.exponent exponent ∧ s = n.whole ++ (point ++ exponent)

/-- No digit comes next. -/
def NoDigit (s : List Char) : Prop := ∀ c ∈ s.head?, c.isDigit = false

/-- A number in front of the text ends there. -/
def Stops (s : List Char) : Prop :=
  ∀ c ∈ s.head?, c.isDigit = false ∧ c ≠ '.' ∧ c ≠ 'e' ∧ c ≠ 'E'

variable {onEnd : Error} {s ds rest : List Char}

theorem Stops.noDigit (h : Stops s) : NoDigit s := fun c hc => (h c hc).1

theorem digits_append (hds : IsDigits ds) (hrest : NoDigit rest) :
    digits onEnd (ds ++ rest) = .ok (ds, rest) := by
  obtain ⟨hne, hall⟩ := hds
  have htake : rest.takeWhile Char.isDigit = [] := by
    cases rest with
    | nil => rfl
    | cons c rest => exact List.takeWhile_cons_of_neg (by simp [hrest c rfl])
  have hdrop : rest.dropWhile Char.isDigit = rest := by
    cases rest with
    | nil => rfl
    | cons c rest => exact List.dropWhile_cons_of_neg (by simp [hrest c rfl])
  obtain ⟨d, more, rfl⟩ := List.exists_cons_of_ne_nil hne
  rw [List.cons_append, digits, if_pos (hall d (by simp)), ← List.cons_append,
    List.takeWhile_append_of_pos hall, List.dropWhile_append_of_pos hall, htake, hdrop,
    List.append_nil]

theorem of_digits (h : digits onEnd s = .ok (ds, rest)) :
    IsDigits ds ∧ s = ds ++ rest := by
  cases s with
  | nil => cases h
  | cons c s =>
    by_cases hc : c.isDigit = true
    · rw [digits, if_pos hc] at h
      cases h
      refine ⟨⟨by simp [hc], fun d hd => List.mem_takeWhile_imp hd⟩, ?_⟩
      exact List.takeWhile_append_dropWhile.symm
    · rw [digits, if_neg hc] at h
      cases h

theorem wholeDigits_of_ne_zero (h : ∀ c rest, s = '0' :: c :: rest → c.isDigit = false) :
    wholeDigits onEnd s = digits onEnd s := by
  unfold wholeDigits
  split
  case h_1 c rest =>
    have hc := h c rest rfl
    simp [digits, hc, show '0'.isDigit = true from rfl]
  case h_2 => rfl

theorem wholeDigits_append (hds : IsWhole ds) (hrest : NoDigit rest) :
    wholeDigits onEnd (ds ++ rest) = .ok (ds, rest) := by
  rw [wholeDigits_of_ne_zero, digits_append hds.1 hrest]
  intro c more hs
  obtain ⟨d, ds, rfl⟩ := List.exists_cons_of_ne_nil hds.1.1
  rw [List.cons_append, List.cons.injEq] at hs
  obtain ⟨rfl, hs⟩ := hs
  obtain rfl : ds = [] := by simpa using hds.2 rfl
  exact hrest c (by rw [← List.nil_append rest, hs]; rfl)

theorem of_wholeDigits (h : wholeDigits onEnd s = .ok (ds, rest)) :
    IsWhole ds ∧ s = ds ++ rest := by
  by_cases hs : ∀ c rest, s = '0' :: c :: rest → c.isDigit = false
  · rw [wholeDigits_of_ne_zero hs] at h
    obtain ⟨hds, rfl⟩ := of_digits h
    refine ⟨⟨hds, ?_⟩, rfl⟩
    intro hzero
    obtain ⟨d, ds, rfl⟩ := List.exists_cons_of_ne_nil hds.1
    cases hzero
    cases ds with
    | nil => rfl
    | cons c ds =>
      have hdigit := hs c (ds ++ rest) rfl
      rw [hds.2 c (by simp)] at hdigit
      cases hdigit
  · simp only [not_forall] at hs
    obtain ⟨c, more, rfl, hc⟩ := hs
    rw [wholeDigits, if_pos (by simpa using hc)] at h
    cases h

theorem fractionDigits_append {point : List Char} (h : PointWritten ds point)
    (hrest : NoDigit rest) (hpoint : rest.head? ≠ some '.') :
    fractionDigits onEnd (point ++ rest) = .ok (ds, rest) := by
  cases h with
  | none =>
    rw [List.nil_append]
    unfold fractionDigits
    split
    case h_1 => exact absurd rfl hpoint
    case h_2 => rfl
  | digits hds => exact digits_append hds hrest

theorem of_fractionDigits (h : fractionDigits onEnd s = .ok (ds, rest)) :
    ∃ point, PointWritten ds point ∧ s = point ++ rest := by
  unfold fractionDigits at h
  split at h
  case h_1 =>
    obtain ⟨hds, rfl⟩ := of_digits h
    exact ⟨_, .digits hds, rfl⟩
  case h_2 =>
    cases h
    exact ⟨[], .none, rfl⟩

/-- The digits of an exponent behind its sign. -/
theorem exponentDigits_mark {mark : Char} (hmark : mark = 'e' ∨ mark = 'E') {negative : Bool}
    {sign : List Char} (hsign : SignWritten negative sign) (hs : ∀ c ∈ s.head?, c.isDigit = true) :
    exponentDigits onEnd (mark :: (sign ++ s)) =
      (digits onEnd s).map fun read => (some (negative, read.1), read.2) := by
  have hmark : exponentDigits onEnd (mark :: (sign ++ s)) =
      exponentDigits onEnd ('e' :: (sign ++ s)) := by
    rcases hmark with rfl | rfl <;> rfl
  rw [hmark]
  cases hsign with
  | none =>
    simp only [exponentDigits, List.nil_append]
    split
    case h_1 => cases hs '-' rfl
    case h_2 => cases hs '+' rfl
    case h_3 => cases digits onEnd s <;> rfl
  | plus =>
    simp only [exponentDigits, List.cons_append, List.nil_append]
    cases digits onEnd s <;> rfl
  | minus =>
    simp only [exponentDigits, List.cons_append, List.nil_append]
    cases digits onEnd s <;> rfl

theorem exponentDigits_append {e : Option (Bool × List Char)} {exponent : List Char}
    (h : ExponentWritten e exponent) (hrest : Stops rest) :
    exponentDigits onEnd (exponent ++ rest) = .ok (e, rest) := by
  cases h with
  | none =>
    rw [List.nil_append]
    unfold exponentDigits
    split
    case h_1 => exact absurd rfl (hrest 'e' rfl).2.2.1
    case h_2 => exact absurd rfl (hrest 'E' rfl).2.2.2
    case h_3 => rfl
  | digits hmark hsign hds =>
    rw [List.cons_append, List.append_assoc, exponentDigits_mark hmark hsign,
      digits_append hds hrest.noDigit]
    · rfl
    · intro c hc
      obtain ⟨d, more, rfl⟩ := List.exists_cons_of_ne_nil hds.1
      cases hc
      exact hds.2 c (by simp)

theorem of_exponentDigits {e : Option (Bool × List Char)}
    (h : exponentDigits onEnd s = .ok (e, rest)) :
    ∃ exponent, ExponentWritten e exponent ∧ s = exponent ++ rest := by
  have hsigned {mark : Char} (hmark : mark = 'e' ∨ mark = 'E') {more : List Char}
      (h : exponentDigits onEnd ('e' :: more) = .ok (e, rest)) :
      ∃ exponent, ExponentWritten e exponent ∧ mark :: more = exponent ++ rest := by
    simp only [exponentDigits] at h
    split at h
    all_goals
      obtain ⟨⟨ds, left⟩, hd, h⟩ := bind_eq_ok.mp h
      cases h
      obtain ⟨hds, rfl⟩ := of_digits hd
    · exact ⟨_, .digits hmark .minus hds, by simp⟩
    · exact ⟨_, .digits hmark .plus hds, by simp⟩
    · exact ⟨_, .digits hmark .none hds, by simp⟩
  have hcases := h
  unfold exponentDigits at hcases
  split at hcases
  case h_1 => exact hsigned (.inl rfl) h
  case h_2 => exact hsigned (.inr rfl) h
  case h_3 =>
    cases hcases
    exact ⟨[], .none, rfl⟩

/-- Neither digits nor a point come after a number that an exponent or other text ends. -/
theorem ExponentWritten.noDigit {e : Option (Bool × List Char)} {exponent : List Char}
    (h : ExponentWritten e exponent) (hrest : Stops rest) :
    NoDigit (exponent ++ rest) ∧ (exponent ++ rest).head? ≠ some '.' := by
  cases h with
  | none => exact ⟨hrest.noDigit, fun hpoint => (hrest '.' hpoint).2.1 rfl⟩
  | digits hmark hsign hds =>
    rcases hmark with rfl | rfl
    · exact ⟨fun c hc => by cases hc; rfl, fun hpoint => by cases hpoint⟩
    · exact ⟨fun c hc => by cases hc; rfl, fun hpoint => by cases hpoint⟩

theorem PointWritten.noDigit {point : List Char} (h : PointWritten ds point)
    (hrest : NoDigit rest) : NoDigit (point ++ rest) := by
  cases h with
  | none => exact hrest
  | digits hds => exact fun c hc => by cases hc; rfl

namespace Numeral

variable {n : Numeral} {negative : Bool}

/-- The reader takes every number that the text behind it does not continue. -/
theorem Written.numeral (h : n.Written s) (hrest : Stops rest) :
    numeral onEnd n.negative (s ++ rest) = .ok (n, rest) := by
  obtain ⟨point, exponent, hwhole, hpoint, hexponent, rfl⟩ := h
  obtain ⟨hdigit, hne⟩ := hexponent.noDigit hrest
  simp only [Json.numeral, List.append_assoc, wholeDigits_append hwhole (hpoint.noDigit hdigit),
    fractionDigits_append hpoint hdigit hne, exponentDigits_append hexponent hrest, ok_bind]
  rfl

/-- The reader takes nothing but numbers. -/
theorem written_of_numeral (h : Json.numeral onEnd negative s = .ok (n, rest)) :
    n.negative = negative ∧ ∃ t, n.Written t ∧ s = t ++ rest := by
  unfold Json.numeral at h
  obtain ⟨⟨whole, left⟩, hw, h⟩ := bind_eq_ok.mp h
  obtain ⟨⟨fraction, left'⟩, hf, h⟩ := bind_eq_ok.mp h
  obtain ⟨⟨exponent, left''⟩, he, h⟩ := bind_eq_ok.mp h
  cases h
  obtain ⟨hwhole, rfl⟩ := of_wholeDigits hw
  obtain ⟨point, hpoint, rfl⟩ := of_fractionDigits hf
  obtain ⟨written, hexponent, rfl⟩ := of_exponentDigits he
  exact ⟨rfl, _, ⟨point, written, hwhole, hpoint, hexponent, rfl⟩, by simp⟩

end Numeral

end RecordStore.Json

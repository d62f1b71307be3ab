import Mathlib.Data.Nat.Digits.Defs
import Mathlib.Tactic.Ring
import RecordStore.Proofs.Text.Blanks
import RecordStore.Text.Numeral

/-! Which texts are numerals, and for which numbers: the reader takes just these, and the digits of
a number are among them. -/
namespace RecordStore.Text.Numeral

/-- The number that digits write, in which each counts by its place from the right. -/
def number (digits : List Char) : Nat :=
  Nat.ofDigits 10 (digits.reverse.map fun c => c.toNat - '0'.toNat)

@[simp] theorem number_nil : number [] = 0 := rfl

theorem number_cons (c : Char) (digits : List Char) :
    number (c :: digits) = (c.toNat - '0'.toNat) * 10 ^ digits.length + number digits := by
  rw [number, List.reverse_cons, List.map_append, Nat.ofDigits_append, List.length_map,
    List.length_reverse, List.map_singleton, Nat.ofDigits_singleton, number]
  ring

/-- Reading digits one by one moves what was read before to the left of them. -/
theorem value_eq (n : Nat) (digits : List Char) :
    value n digits = n * 10 ^ digits.length + number digits := by
  induction digits generalizing n with
  | nil => simp [value]
  | cons c digits ih =>
    calc value n (c :: digits)
        = value (10 * n + (c.toNat - '0'.toNat)) digits := rfl
      _ = (10 * n + (c.toNat - '0'.toNat)) * 10 ^ digits.length + number digits := ih _
      _ = n * 10 ^ (c :: digits).length + number (c :: digits) := by
        rw [number_cons, List.length_cons, pow_succ]
        ring

theorem number_toDigits (n : Nat) : number (Nat.toDigits 10 n) = n := by
  calc number (Nat.toDigits 10 n)
      = value 0 (Nat.toDigits 10 n) := by rw [value_eq, Nat.zero_mul, Nat.zero_add]
    _ = Nat.ofDigitChars 10 (Nat.toDigits 10 n) 0 := Nat.ofDigitChars_eq_foldl.symm
    _ = n := Nat.ofDigitChars_ten_toDigits

/-- A text is a numeral for a number: one or more digits, after a plus sign or not. Zeros may come
first. -/
inductive Written : List Char → Nat → Prop
  | bare {digits : List Char} : digits ≠ [] → (∀ c ∈ digits, c.isDigit = true) →
      Written digits (number digits)
  | plus {digits : List Char} : digits ≠ [] → (∀ c ∈ digits, c.isDigit = true) →
      Written ('+' :: digits) (number digits)

theorem written_toDigits (n : Nat) : Written (Nat.toDigits 10 n) n := by
  have hall : ∀ c ∈ Nat.toDigits 10 n, c.isDigit = true :=
    fun c hc => Nat.isDigit_of_mem_toDigits (by decide) (by decide) hc
  have hw := Written.bare Nat.toDigits_ne_nil hall
  rwa [number_toDigits] at hw

/-- A text without a plus sign in front. -/
def unsigned : List Char → List Char
  | '+' :: rest => rest
  | s => s

theorem unsigned_of_head?_ne {s : List Char} (h : s.head? ≠ some '+') : unsigned s = s := by
  unfold unsigned
  split
  · exact absurd rfl h
  · rfl

variable {bound n : Nat} {s : List Char}

theorem written_iff :
    Written s n ↔ unsigned s ≠ [] ∧ (∀ c ∈ unsigned s, c.isDigit = true) ∧
      number (unsigned s) = n := by
  constructor
  · rintro (⟨hne, hall⟩ | ⟨hne, hall⟩)
    · have hhead : s.head? ≠ some '+' := by
        intro hplus
        have hdigit := hall '+' (List.mem_of_mem_head? hplus)
        cases hdigit
      rw [unsigned_of_head?_ne hhead]
      exact ⟨hne, hall, rfl⟩
    · exact ⟨hne, hall, rfl⟩
  · rintro ⟨hne, hall, rfl⟩
    by_cases hplus : s.head? = some '+'
    · obtain ⟨digits, rfl⟩ := List.head?_eq_some_iff.mp hplus
      exact .plus hne hall
    · rw [unsigned_of_head?_ne hplus] at hne hall ⊢
      exact .bare hne hall

theorem le_value (n : Nat) (digits : List Char) : n ≤ value n digits := by
  rw [value_eq]
  exact Nat.le_add_right_of_le (Nat.le_mul_of_pos_right n (Nat.pow_pos (by decide)))

/-- The reader stops at a number that is too large. No further digit would make it smaller. -/
theorem extend?_eq_some {m : Nat} {digits : List Char} (hm : m < bound) :
    extend? bound m digits = some n ↔
      (∀ c ∈ digits, c.isDigit = true) ∧ value m digits = n ∧ n < bound := by
  induction digits generalizing m with
  | nil =>
    simp only [extend?, value, List.foldl_nil, Option.some.injEq, List.not_mem_nil,
      false_implies, implies_true, true_and]
    exact ⟨fun h => ⟨h, h ▸ hm⟩, And.left⟩
  | cons c digits ih =>
    have hvalue : value m (c :: digits) = value (10 * m + (c.toNat - '0'.toNat)) digits := rfl
    rw [extend?, Option.ite_none_right_eq_some, List.forall_mem_cons, hvalue, and_assoc]
    refine and_congr_right fun _ => ?_
    by_cases hnext : 10 * m + (c.toNat - '0'.toNat) < bound
    · rw [if_pos hnext, ih hnext]
    · rw [if_neg hnext]
      refine iff_of_false (by simp) ?_
      rintro ⟨-, rfl, hlt⟩
      exact hnext ((le_value _ digits).trans_lt hlt)

/-- The reader takes the numerals for numbers below its bound, and no other text. -/
theorem parse?_eq_some : parse? bound s = some n ↔ Written s n ∧ n < bound := by
  rcases Nat.eq_zero_or_pos bound with rfl | hpos
  · exact iff_of_false (fun h => Nat.not_lt_zero n (parse?_lt h)) (fun h => Nat.not_lt_zero n h.2)
  · have hparse : parse? bound s =
        if (unsigned s).isEmpty then none else extend? bound 0 (unsigned s) := rfl
    rw [hparse, Option.ite_none_left_eq_some, extend?_eq_some hpos, value_eq, Nat.zero_mul,
      Nat.zero_add, List.isEmpty_iff, written_iff, and_assoc, and_assoc]

theorem isBlank_of_isDigit {c : Char} (h : c.isDigit = true) : isBlank c = false := by
  have hapart : ∀ range ∈ blanks, range.2 < '0'.toNat ∨ '9'.toNat < range.1 := by decide
  obtain ⟨hzero, hnine⟩ := Char.isDigit_iff_toNat.mp h
  rw [Bool.eq_false_iff]
  intro hblank
  obtain ⟨low, high, hmem, hlow, hhigh⟩ := (CodeRanges.contains_iff blanks c).mp hblank
  have := hapart (low, high) hmem
  omega

/-- No blank stands at an end of a numeral. -/
theorem Written.bare_ends (h : Written s n) : Bare s := by
  cases h with
  | bare hne hall =>
    exact ⟨fun c hc => isBlank_of_isDigit (hall c (List.mem_of_mem_head? hc)),
      fun c hc => isBlank_of_isDigit (hall c (List.mem_of_mem_getLast? hc))⟩
  | @plus digits hne hall =>
    refine ⟨fun c hc => ?_, fun c hc => ?_⟩
    · cases hc
      decide
    · rw [List.getLast?_cons_of_ne_nil hne] at hc
      exact isBlank_of_isDigit (hall c (List.mem_of_mem_getLast? hc))

/-- A text is a numeral for a number once the blanks at its ends are taken off. -/
def Denotes (s : List Char) (n : Nat) : Prop := ∃ t, Trims s t ∧ Written t n

theorem denotes_iff : Denotes s n ↔ Written (trim s) n := by
  constructor
  · rintro ⟨t, htrims, hwritten⟩
    rwa [trim_eq_iff.mpr htrims]
  · exact fun hwritten => ⟨trim s, trim_eq_iff.mp rfl, hwritten⟩

theorem Written.denotes (h : Written s n) : Denotes s n :=
  ⟨s, ⟨[], [], by simp, by simp, by simp, h.bare_ends⟩, h⟩

theorem parse?_trim : parse? bound (trim s) = some n ↔ Denotes s n ∧ n < bound := by
  rw [parse?_eq_some, denotes_iff]

end RecordStore.Text.Numeral

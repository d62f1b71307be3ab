import Mathlib.Data.List.DropRight
import RecordStore.Proofs.Json.Grammar

/-! The reader of trees reads just the texts of values, each as the value that it is a text of. -/
namespace RecordStore.Json

variable {s t b rest : List Char} {c : Char} {v : Value} {fuel : Nat}

theorem skipSpace_append (hb : Blank b) (s : List Char) : skipSpace (b ++ s) = skipSpace s :=
  List.dropWhile_append_of_pos hb

theorem skipSpace_cons (hc : isSpace c = false) : skipSpace (c :: s) = c :: s :=
  List.dropWhile_cons_of_neg (by simp [hc])

theorem skipSpace_skipSpace (s : List Char) : skipSpace (skipSpace s) = skipSpace s :=
  List.dropWhile_idempotent _ s

/-- What comes after blanks. -/
theorem exists_skipSpace (s : List Char) : ∃ b, Blank b ∧ s = b ++ skipSpace s :=
  ⟨s.takeWhile isSpace, fun _ h => List.mem_takeWhile_imp h,
    List.takeWhile_append_dropWhile.symm⟩

namespace Value

theorem read_skipSpace (fuel : Nat) (s : List Char) : read fuel (skipSpace s) = read fuel s := by
  cases fuel with
  | zero => rfl
  | succ fuel => simp only [read, skipSpace_skipSpace]

theorem read_append (hb : Blank b) (s : List Char) : read fuel (b ++ s) = read fuel s := by
  rw [← read_skipSpace, skipSpace_append hb, read_skipSpace]

theorem readItems_skipSpace (fuel : Nat) (s : List Char) :
    readItems fuel (skipSpace s) = readItems fuel s := by
  cases fuel with
  | zero => rfl
  | succ fuel => simp only [readItems, read_skipSpace]

theorem readMembers_skipSpace (fuel : Nat) (s : List Char) :
    readMembers fuel (skipSpace s) = readMembers fuel s := by
  cases fuel with
  | zero => rfl
  | succ fuel => simp only [readMembers, skipSpace_skipSpace]

theorem read_array (h : skipSpace s = c :: t) (hc : c ≠ ']') :
    read (fuel + 1) ('[' :: s) =
      (array (readItems fuel s).1 (readItems fuel s).2.1, (readItems fuel s).2.2) := by
  rw [← readItems_skipSpace, h]
  simp only [read, skipSpace_cons (show isSpace '[' = false from rfl), h]
  split
  case h_1 he => cases he
  case h_2 he =>
    cases he
    exact absurd rfl hc
  case h_3 => rfl

theorem read_object (h : skipSpace s = c :: t) (hc : c ≠ '}') :
    read (fuel + 1) ('{' :: s) =
      (object (readMembers fuel s).1 (readMembers fuel s).2.1, (readMembers fuel s).2.2) := by
  rw [← readMembers_skipSpace, h]
  simp only [read, skipSpace_cons (show isSpace '{' = false from rfl), h]
  split
  case h_1 he => cases he
  case h_2 he =>
    cases he
    exact absurd rfl hc
  case h_3 => rfl

theorem isSpace_of_isDigit (hc : c.isDigit = true) : isSpace c = false := by
  rw [isSpace, Bool.eq_false_iff]
  intro h
  simp only [Bool.or_eq_true, beq_iff_eq] at h
  rcases h with ((rfl | rfl) | rfl) | rfl <;> cases hc

theorem read_number (hc : c.isDigit = true) :
    read (fuel + 1) (c :: s) = ofNumeral false (c :: s) := by
  simp only [read, skipSpace_cons (isSpace_of_isDigit hc)]
  split
  case h_9 c' s' _ _ _ _ _ _ _ he =>
    cases he
    exact if_pos hc
  all_goals
    rename_i he
    cases he
  all_goals cases hc

theorem ofNumeral_append {n : Numeral} (h : n.Written s) (hrest : Stops rest) :
    ofNumeral n.negative (s ++ rest) = (number n, some rest) := by
  rw [ofNumeral, h.numeral hrest]

theorem ofString_append {text : Except Error String} (h : StringWritten text ('"' :: s))
    (rest : List Char) : ofString (s ++ rest) = (string text, some rest) := by
  rw [ofString, h.stringToken]

end Value

/-- A string starts with a quote. -/
theorem StringWritten.exists_tail {text : Except Error String} (h : StringWritten text s) :
    ∃ t, s = '"' :: t := by
  obtain ⟨pieces, -, rfl⟩ := h
  exact ⟨_, rfl⟩

theorem Numeral.Written.exists_digit {n : Numeral} (h : n.Written s) :
    ∃ c t, s = c :: t ∧ c.isDigit = true := by
  obtain ⟨point, exponent, ⟨⟨hne, hall⟩, -⟩, -, -, rfl⟩ := h
  obtain ⟨d, ds, hd⟩ := List.exists_cons_of_ne_nil hne
  exact ⟨d, ds ++ (point ++ exponent), by rw [hd]; rfl, hall d (by simp [hd])⟩

/-- A value starts with a character that is no blank and closes nothing. -/
theorem Value.Written.exists_head (h : v.Written s) :
    ∃ c t, s = c :: t ∧ isSpace c = false ∧ c ≠ ']' := by
  cases h with
  | null => exact ⟨_, _, rfl, rfl, by decide⟩
  | yes => exact ⟨_, _, rfl, rfl, by decide⟩
  | no => exact ⟨_, _, rfl, rfl, by decide⟩
  | positive hn h =>
    obtain ⟨d, t, rfl, hd⟩ := h.exists_digit
    refine ⟨d, t, rfl, Value.isSpace_of_isDigit hd, ?_⟩
    rintro rfl
    cases hd
  | negative hn h => exact ⟨_, _, rfl, rfl, by decide⟩
  | string h =>
    obtain ⟨t, rfl⟩ := h.exists_tail
    exact ⟨_, _, rfl, rfl, by decide⟩
  | emptyArray hb => exact ⟨_, _, rfl, rfl, by decide⟩
  | array h => exact ⟨_, _, rfl, rfl, by decide⟩
  | emptyObject hb => exact ⟨_, _, rfl, rfl, by decide⟩
  | object h => exact ⟨_, _, rfl, rfl, by decide⟩

theorem Value.Padded.exists_head (h : v.Padded s) (rest : List Char) :
    ∃ c t, skipSpace (s ++ rest) = c :: t ∧ c ≠ ']' := by
  obtain ⟨hb, hv, -⟩ := h
  obtain ⟨c, t, rfl, hc, hne⟩ := hv.exists_head
  rw [List.append_assoc, skipSpace_append hb, List.append_assoc, List.cons_append,
    skipSpace_cons hc]
  exact ⟨c, _, rfl, hne⟩

theorem ItemsWritten.exists_head {items : List Value} (h : ItemsWritten items s)
    (rest : List Char) : ∃ c t, skipSpace (s ++ rest) = c :: t ∧ c ≠ ']' := by
  cases h with
  | last h => exact h.exists_head rest
  | more h _ =>
    rw [List.append_assoc]
    exact h.exists_head _

theorem MembersWritten.exists_head {members : List Member} (h : MembersWritten members s)
    (rest : List Char) : ∃ t, skipSpace (s ++ rest) = '"' :: t := by
  have hmember {m : Member} {s : List Char} (h : MemberWritten m s) (rest : List Char) :
      ∃ t, skipSpace (s ++ rest) = '"' :: t := by
    obtain ⟨hb, hk, -, -⟩ := h
    obtain ⟨t, rfl⟩ := hk.exists_tail
    exact ⟨_, by rw [List.append_assoc, skipSpace_append hb]; exact skipSpace_cons rfl⟩
  cases h with
  | last h => exact hmember h rest
  | more h _ =>
    rw [List.append_assoc]
    exact hmember h _

/-- The text is at its end, or something ends there. -/
def Closes (s : List Char) : Prop := ∀ c ∈ s.head?, c = ',' ∨ c = ']' ∨ c = '}'

theorem closes_cons (hc : c = ',' ∨ c = ']' ∨ c = '}') : Closes (c :: rest) := by
  intro d hd
  cases hd
  exact hc

theorem Closes.skipSpace (h : Closes rest) : skipSpace rest = rest := by
  cases rest with
  | nil => rfl
  | cons c rest =>
    refine skipSpace_cons ?_
    rcases h c rfl with rfl | rfl | rfl <;> rfl

/-- Blanks and the end of an array or an object end a number. -/
theorem Closes.stops (h : Closes rest) (hb : Blank b) : Stops (b ++ rest) := by
  intro c hc
  cases b with
  | nil => rcases h c hc with rfl | rfl | rfl <;> exact ⟨rfl, by decide, by decide, by decide⟩
  | cons d b =>
    cases hc
    have hspace := hb c (by simp)
    simp only [isSpace, Bool.or_eq_true, beq_iff_eq] at hspace
    rcases hspace with ((rfl | rfl) | rfl) | rfl <;>
      exact ⟨rfl, by decide, by decide, by decide⟩

mutual

/-- A value that is written at the front of a text is read, and nothing behind it. -/
theorem Value.Written.read : ∀ {v : Value} {s : List Char}, v.Written s →
    ∀ {fuel : Nat} {rest : List Char}, Stops rest → 2 * s.length ≤ fuel →
      Value.read fuel (s ++ rest) = (v, some rest)
  | _, _, .null, fuel + 1, _, _, _ => rfl
  | _, _, .yes, fuel + 1, _, _, _ => rfl
  | _, _, .no, fuel + 1, _, _, _ => rfl
  | _, _, .positive hn h, fuel + 1, rest, hrest, _ => by
    obtain ⟨d, t, rfl, hd⟩ := h.exists_digit
    rw [List.cons_append, Value.read_number hd, ← List.cons_append, ← hn]
    exact Value.ofNumeral_append h hrest
  | _, _, .negative hn h, fuel + 1, rest, hrest, _ => by
    refine Eq.trans ?_ (Value.ofNumeral_append h hrest)
    rw [hn]
    rfl
  | _, _, .string h, fuel + 1, rest, _, _ => by
    obtain ⟨t, rfl⟩ := h.exists_tail
    exact Value.ofString_append h rest
  | _, _, .emptyArray hb, fuel + 1, rest, _, _ => by
    simp only [Value.read, List.cons_append, skipSpace_cons (show isSpace '[' = false from rfl),
      List.append_assoc, skipSpace_append hb]
    rfl
  | _, _, .array h, fuel + 1, rest, _, hlength => by
    rw [List.cons_append, List.append_assoc, List.singleton_append]
    obtain ⟨c, t, hhead, hc⟩ := h.exists_head (']' :: rest)
    rw [Value.read_array hhead hc, h.read]
    simp only [List.length_cons, List.length_append] at hlength
    omega
  | _, _, .emptyObject hb, fuel + 1, rest, _, _ => by
    simp only [Value.read, List.cons_append,
      skipSpace_cons (show isSpace '{' = false from rfl), List.append_assoc,
      skipSpace_append hb]
    rfl
  | _, _, .object h, fuel + 1, rest, _, hlength => by
    rw [List.cons_append, List.append_assoc, List.singleton_append]
    obtain ⟨t, hhead⟩ := h.exists_head ('}' :: rest)
    rw [Value.read_object hhead (by decide), h.read]
    simp only [List.length_cons, List.length_append] at hlength
    omega
  | _, _, h, 0, _, _, hlength => by
    obtain ⟨c, t, rfl, -⟩ := h.exists_head
    simp at hlength

theorem Value.Padded.read : ∀ {v : Value} {s : List Char}, v.Padded s →
    ∀ {fuel : Nat} {rest : List Char}, Closes rest → 2 * s.length ≤ fuel →
      ∃ b, Value.read fuel (s ++ rest) = (v, some (b ++ rest)) ∧ Blank b
  | _, _, .blanks hb h hb', fuel, rest, hrest, hlength => by
    rename_i v b s b'
    simp only [List.length_append] at hlength
    refine ⟨b', ?_, hb'⟩
    rw [List.append_assoc, Value.read_append hb, List.append_assoc,
      h.read (hrest.stops hb') (by omega)]

theorem ItemsWritten.read : ∀ {items : List Value} {s : List Char}, ItemsWritten items s →
    ∀ {fuel : Nat} {rest : List Char}, 2 * s.length < fuel →
      Value.readItems fuel (s ++ ']' :: rest) = (items, none, some rest)
  | _, _, .last h, fuel + 1, rest, hlength => by
    have hrest : Closes (']' :: rest) := closes_cons (by decide)
    obtain ⟨b, hread, hb⟩ := h.read hrest (by omega : _ ≤ fuel)
    simp only [Value.readItems, hread, skipSpace_append hb, hrest.skipSpace]
  | _, _, .more h hmore, fuel + 1, rest, hlength => by
    rename_i s t
    simp only [List.length_append, List.length_cons] at hlength
    have hrest : Closes (',' :: (t ++ ']' :: rest)) := closes_cons (by decide)
    obtain ⟨b, hread, hb⟩ := h.read hrest (by omega : _ ≤ fuel)
    rw [List.append_assoc, List.cons_append]
    simp only [Value.readItems, hread, skipSpace_append hb, hrest.skipSpace,
      hmore.read (by omega : _ < fuel)]

theorem MemberWritten.read : ∀ {m : Member} {s : List Char}, MemberWritten m s →
    ∀ {fuel : Nat}, 2 * s.length ≤ fuel → ∀ rest : List Char,
      Value.readMembers (fuel + 1) (s ++ '}' :: rest) = ([m], none, some rest) ∧
      Value.readMembers (fuel + 1) (s ++ ',' :: rest) =
        (m :: (Value.readMembers fuel rest).1, (Value.readMembers fuel rest).2)
  | _, _, .pair hb hk hb' h, fuel, hlength, rest => by
    rename_i v b k b' s
    obtain ⟨t, rfl⟩ := hk.exists_tail
    have hkey (rest : List Char) : skipSpace (b ++ ('"' :: t ++ (b' ++ ':' :: s)) ++ rest) =
        '"' :: (t ++ (b' ++ ':' :: (s ++ rest))) := by
      rw [List.append_assoc, skipSpace_append hb]
      simp [skipSpace_cons (show isSpace '"' = false from rfl)]
    have hcolon (rest : List Char) : skipSpace (b' ++ ':' :: (s ++ rest)) = ':' :: (s ++ rest) := by
      rw [skipSpace_append hb', skipSpace_cons rfl]
    simp only [List.length_append, List.length_cons] at hlength
    have hs : 2 * s.length ≤ fuel := by omega
    constructor
    · have hrest : Closes ('}' :: rest) := closes_cons (by decide)
      obtain ⟨b'', hread, hb''⟩ := h.read hrest hs
      simp only [Value.readMembers, hkey, hk.stringToken, hcolon, hread, skipSpace_append hb'',
        hrest.skipSpace]
    · have hrest : Closes (',' :: rest) := closes_cons (by decide)
      obtain ⟨b'', hread, hb''⟩ := h.read hrest hs
      simp only [Value.readMembers, hkey, hk.stringToken, hcolon, hread, skipSpace_append hb'',
        hrest.skipSpace]

theorem MembersWritten.read : ∀ {members : List Member} {s : List Char},
    MembersWritten members s → ∀ {fuel : Nat} {rest : List Char}, 2 * s.length < fuel →
      Value.readMembers fuel (s ++ '}' :: rest) = (members, none, some rest)
  | _, _, .last h, fuel + 1, rest, hlength => (h.read (by omega) rest).1
  | _, _, .more h hmore, fuel + 1, rest, hlength => by
    simp only [List.length_append, List.length_cons] at hlength
    rw [List.append_assoc, List.cons_append, (h.read (by omega) _).2, hmore.read (by omega)]

end

end RecordStore.Json

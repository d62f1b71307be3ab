import RecordStore.Json.Value
import RecordStore.Proofs.Outcome

/-! The strings of the format: which texts are strings, what they spell, and that the reader takes
just these. -/
namespace RecordStore.Json

def IsHighHalf (n : Nat) : Prop := 0xD800 ≤ n ∧ n ≤ 0xDBFF

def IsLowHalf (n : Nat) : Prop := 0xDC00 ≤ n ∧ n ≤ 0xDFFF

instance (n : Nat) : Decidable (IsHighHalf n) := inferInstanceAs (Decidable (_ ∧ _))

instance (n : Nat) : Decidable (IsLowHalf n) := inferInstanceAs (Decidable (_ ∧ _))

/-- The character that two halves stand for. -/
def paired (high low : Nat) : Char :=
  Char.ofNat (0x10000 + (high - 0xD800) * 0x400 + (low - 0xDC00))

/-- A part of a string that has no parts itself. -/
inductive Piece
  | plain (c : Char) (h : ' ' ≤ c ∧ c ≠ '"' ∧ c ≠ '\\')
  | short (letter meaning : Char) (h : shortEscape? letter = some meaning)
  | unit (a b c d : Char) (value : Nat) (h : hexValue? a b c d = some value)

namespace Piece

def written : Piece → List Char
  | plain c _ => [c]
  | short letter _ _ => ['\\', letter]
  | unit a b c d _ _ => ['\\', 'u', a, b, c, d]

/-- The characters that pieces spell; none if a half stands alone. -/
def spelled? : List Piece → Option (List Char)
  | [] => some []
  | plain c _ :: rest => (spelled? rest).map (c :: ·)
  | short _ meaning _ :: rest => (spelled? rest).map (meaning :: ·)
  | unit _ _ _ _ low _ :: rest =>
    if IsLowHalf low then none
    else if IsHighHalf low then
      match rest with
      | unit _ _ _ _ next _ :: rest =>
        if IsLowHalf next then (spelled? rest).map (paired low next :: ·) else none
      | _ => none
    else (spelled? rest).map (Char.ofNat low :: ·)

/-- The string that pieces make, if they make one. -/
def text (pieces : List Piece) : Except Error String :=
  match spelled? pieces with
  | some cs => .ok (String.ofList cs)
  | none => .error .malformed

end Piece

/-- The text, quotes included, is a string; it may be one that no reader can make sense of. -/
def StringWritten (text : Except Error String) (s : List Char) : Prop :=
  ∃ pieces : List Piece,
    text = Piece.text pieces ∧ s = '"' :: (pieces.flatMap Piece.written ++ ['"'])

variable {matters : Bool} {s rest : List Char} {c : Char}

theorem stringBody_quote : stringBody matters ('"' :: rest) = .ok ([], rest) := by
  rw [stringBody]

theorem stringBody_plain (h : ' ' ≤ c ∧ c ≠ '"' ∧ c ≠ '\\') :
    stringBody matters (c :: rest) =
      (stringBody matters rest).map fun read => (c :: read.1, read.2) := by
  obtain ⟨hspace, hquote, hslash⟩ := h
  rw [stringBody, if_neg (Char.not_lt.mpr hspace)]
  · cases stringBody matters rest <;> rfl
  · exact hquote
  · exact hslash

theorem stringBody_escaped (h : escaped matters s = .ok (c, rest)) :
    stringBody matters ('\\' :: s) =
      (stringBody matters rest).map fun read => (c :: read.1, read.2) := by
  rw [stringBody]
  split
  case h_1 he => rw [h] at he; cases he
  case h_2 c' rest' he =>
    rw [h] at he
    cases he
    cases stringBody matters rest <;> rfl

theorem stringBody_of_error {e : Error} (h : escaped matters s = .error e) :
    stringBody matters ('\\' :: s) = .error e := by
  rw [stringBody]
  split
  case h_1 he => rw [h] at he; cases he; rfl
  case h_2 c' rest' he => rw [h] at he; cases he

theorem codeUnit_hex {a b c d : Char} {n : Nat} (h : hexValue? a b c d = some n) :
    codeUnit (a :: b :: c :: d :: rest) = .ok (n, rest) := by
  simp only [codeUnit, h]

theorem escaped_short {letter : Char} (h : shortEscape? letter = some c) :
    escaped matters (letter :: rest) = .ok (c, rest) := by
  have hu : letter ≠ 'u' := by
    rintro rfl
    cases h
  unfold escaped
  split
  case h_1 he =>
    cases he
    exact absurd rfl hu
  case h_2 l r he =>
    cases he
    rw [h]
  case h_3 he => cases he

theorem escaped_unit {a b c d : Char} {n : Nat} (h : hexValue? a b c d = some n) :
    escaped matters ('u' :: a :: b :: c :: d :: rest) =
      if !matters then .ok (Char.ofNat n, rest)
      else if IsLowHalf n then .error .malformed
      else if IsHighHalf n then pairedUnit n rest
      else .ok (Char.ofNat n, rest) := by
  simp only [escaped, codeUnit_hex h, ok_bind]
  rfl

theorem pairedUnit_unit {a b c d : Char} {high n : Nat} (h : hexValue? a b c d = some n) :
    pairedUnit high ('\\' :: 'u' :: a :: b :: c :: d :: rest) =
      if IsLowHalf n then .ok (paired high n, rest) else .error .malformed := by
  simp only [pairedUnit, codeUnit_hex h, ok_bind]
  rfl

theorem pairedUnit_of_ne {high : Nat} (hend : s ≠ [] ∧ s ≠ ['\\'])
    (h : ∀ rest, s ≠ '\\' :: 'u' :: rest) : pairedUnit high s = .error .malformed := by
  unfold pairedUnit
  split
  case h_1 rest => exact absurd rfl (h rest)
  case h_2 => exact absurd rfl hend.1
  case h_3 => exact absurd rfl hend.2
  case h_4 => rfl

/-- What follows the first half of a pair has to be another unit. -/
theorem pairedUnit_pieces {high : Nat} {pieces : List Piece}
    (h : ∀ a b c d n hn more, pieces ≠ Piece.unit a b c d n hn :: more) :
    pairedUnit high (pieces.flatMap Piece.written ++ '"' :: rest) = .error .malformed := by
  cases pieces with
  | nil => exact pairedUnit_of_ne (by simp) (by simp)
  | cons piece more =>
    cases piece with
    | plain c hc =>
      have hslash := hc.2.2
      exact pairedUnit_of_ne (by simp [Piece.written, hslash]) (by simp [Piece.written, hslash])
    | short letter meaning hletter =>
      have hu : letter ≠ 'u' := by
        rintro rfl
        cases hletter
      exact pairedUnit_of_ne (by simp [Piece.written]) (by simp [Piece.written, hu])
    | unit a b c d n hn => exact absurd rfl (h a b c d n hn more)

theorem stringBody_true_pieces (pieces : List Piece) (rest : List Char) :
    stringBody true (pieces.flatMap Piece.written ++ '"' :: rest) =
      match Piece.spelled? pieces with
      | some cs => .ok (cs, rest)
      | none => .error .malformed := by
  fun_induction Piece.spelled? pieces with
  | case1 => exact stringBody_quote
  | case2 c h more ih =>
    simp only [List.flatMap_cons, Piece.written, List.cons_append, List.nil_append,
      stringBody_plain h, ih]
    cases Piece.spelled? more <;> rfl
  | case3 letter meaning h more ih =>
    simp only [List.flatMap_cons, Piece.written, List.cons_append, List.nil_append,
      stringBody_escaped (escaped_short h), ih]
    cases Piece.spelled? more <;> rfl
  | case4 a b c d n h more hlow =>
    have he : escaped true
        ('u' :: a :: b :: c :: d :: (more.flatMap Piece.written ++ '"' :: rest)) =
        .error .malformed := by
      rw [escaped_unit h]
      simp [hlow]
    exact stringBody_of_error he
  | case5 a b c d n h hlow hhigh a' b' c' d' next h' more hnext ih =>
    have he : escaped true ('u' :: a :: b :: c :: d :: '\\' :: 'u' :: a' :: b' :: c' :: d' ::
        (more.flatMap Piece.written ++ '"' :: rest)) =
        .ok (paired n next, more.flatMap Piece.written ++ '"' :: rest) := by
      rw [escaped_unit h, pairedUnit_unit h']
      simp [hlow, hhigh, hnext]
    refine (stringBody_escaped he).trans ?_
    rw [ih]
    cases Piece.spelled? more <;> rfl
  | case6 a b c d n h hlow hhigh a' b' c' d' next h' more hnext =>
    have he : escaped true ('u' :: a :: b :: c :: d :: '\\' :: 'u' :: a' :: b' :: c' :: d' ::
        (more.flatMap Piece.written ++ '"' :: rest)) = .error .malformed := by
      rw [escaped_unit h, pairedUnit_unit h']
      simp [hlow, hhigh, hnext]
    exact stringBody_of_error he
  | case7 a b c d n h more hlow hhigh hunit =>
    have he : escaped true
        ('u' :: a :: b :: c :: d :: (more.flatMap Piece.written ++ '"' :: rest)) =
        .error .malformed := by
      rw [escaped_unit h, pairedUnit_pieces fun a b c d n hn tail ht => hunit a b c d n hn tail ht]
      simp [hlow, hhigh]
    exact stringBody_of_error he
  | case8 a b c d n h more hlow hhigh ih =>
    have he : escaped true
        ('u' :: a :: b :: c :: d :: (more.flatMap Piece.written ++ '"' :: rest)) =
        .ok (Char.ofNat n, more.flatMap Piece.written ++ '"' :: rest) := by
      rw [escaped_unit h]
      simp [hlow, hhigh]
    refine (stringBody_escaped he).trans ?_
    rw [ih]
    cases Piece.spelled? more <;> rfl

/-- A reader that only passes over a string takes all its pieces. -/
theorem stringBody_false_pieces (pieces : List Piece) (rest : List Char) :
    ∃ cs, stringBody false (pieces.flatMap Piece.written ++ '"' :: rest) = .ok (cs, rest) := by
  induction pieces with
  | nil => exact ⟨[], stringBody_quote⟩
  | cons piece more ih =>
    obtain ⟨cs, hcs⟩ := ih
    cases piece with
    | plain c h => exact ⟨c :: cs, by simp [Piece.written, stringBody_plain h, hcs, Except.map]⟩
    | short letter meaning h =>
      refine ⟨meaning :: cs, ?_⟩
      simp [Piece.written, stringBody_escaped (escaped_short h), hcs, Except.map]
    | unit a b c d n h =>
      have he : escaped false
          ('u' :: a :: b :: c :: d :: (more.flatMap Piece.written ++ '"' :: rest)) =
          .ok (Char.ofNat n, more.flatMap Piece.written ++ '"' :: rest) := by
        rw [escaped_unit h]
        rfl
      exact ⟨Char.ofNat n :: cs, by simp [Piece.written, stringBody_escaped he, hcs, Except.map]⟩

theorem stringToken_pieces (pieces : List Piece) (rest : List Char) :
    stringToken (pieces.flatMap Piece.written ++ '"' :: rest) = .ok (Piece.text pieces, rest) := by
  obtain ⟨loose, hloose⟩ := stringBody_false_pieces pieces rest
  rw [stringToken, stringBody_true_pieces, Piece.text]
  cases Piece.spelled? pieces with
  | some cs => rfl
  | none => simp only [hloose]

theorem hex_of_codeUnit {n : Nat} (h : codeUnit s = .ok (n, rest)) :
    ∃ a b c d, hexValue? a b c d = some n ∧ s = a :: b :: c :: d :: rest := by
  unfold codeUnit at h
  split at h
  case h_1 a b c d more =>
    cases hn : hexValue? a b c d with
    | none =>
      rw [hn] at h
      cases h
    | some n =>
      rw [hn] at h
      cases h
      exact ⟨a, b, c, d, hn, rfl⟩
  case h_2 => cases h

theorem piece_of_pairedUnit {high : Nat} (h : pairedUnit high s = .ok (c, rest)) :
    ∃ piece : Piece, s = piece.written ++ rest := by
  have hsplit := h
  unfold pairedUnit at hsplit
  split at hsplit
  case h_1 more =>
    obtain ⟨⟨low, left⟩, hunit, -⟩ := bind_eq_ok.mp hsplit
    obtain ⟨a, b, c', d, hlow, rfl⟩ := hex_of_codeUnit hunit
    rw [pairedUnit_unit hlow] at h
    by_cases hhalf : IsLowHalf low
    · rw [if_pos hhalf, Except.ok.injEq, Prod.mk.injEq] at h
      exact ⟨.unit a b c' d low hlow, by rw [h.2]; rfl⟩
    · rw [if_neg hhalf] at h
      cases h
  all_goals cases hsplit

theorem pieces_of_escaped (h : escaped matters s = .ok (c, rest)) :
    ∃ pieces : List Piece, '\\' :: s = pieces.flatMap Piece.written ++ rest := by
  have hsplit := h
  unfold escaped at hsplit
  split at hsplit
  case h_1 more =>
    obtain ⟨⟨n, left⟩, hunit, -⟩ := bind_eq_ok.mp hsplit
    obtain ⟨a, b, c', d, hn, rfl⟩ := hex_of_codeUnit hunit
    rw [escaped_unit hn] at h
    by_cases hmatters : (!matters) = true
    · rw [if_pos hmatters] at h
      cases h
      exact ⟨[.unit a b c' d n hn], rfl⟩
    · rw [if_neg hmatters, ite_error_eq_ok] at h
      by_cases hhigh : IsHighHalf n
      · rw [if_pos hhigh] at h
        obtain ⟨next, rfl⟩ := piece_of_pairedUnit h.2
        exact ⟨[.unit a b c' d n hn, next], by simp [Piece.written]⟩
      · rw [if_neg hhigh] at h
        cases h.2
        exact ⟨[.unit a b c' d n hn], rfl⟩
  case h_2 letter more _ =>
    split at hsplit
    case h_1 _ meaning hletter =>
      cases hsplit
      exact ⟨[.short letter _ hletter], rfl⟩
    case h_2 => cases hsplit
  case h_3 => cases hsplit

theorem pieces_of_stringBody {cs : List Char} (h : stringBody matters s = .ok (cs, rest)) :
    ∃ pieces : List Piece, s = pieces.flatMap Piece.written ++ '"' :: rest := by
  fun_induction stringBody matters s generalizing cs with
  | case1 => cases h
  | case2 more =>
    cases h
    exact ⟨[], rfl⟩
  | case3 | case4 | case6 | case7 => cases h
  | case5 more c left he cs' rest' hbody ih =>
    cases h
    obtain ⟨first, hfirst⟩ := pieces_of_escaped he
    obtain ⟨pieces, rfl⟩ := ih hbody
    exact ⟨first ++ pieces, by rw [hfirst, List.flatMap_append, List.append_assoc]⟩
  | case8 c more hquote hslash hspace cs' rest' hbody ih =>
    cases h
    obtain ⟨pieces, rfl⟩ := ih hbody
    exact ⟨.plain c ⟨Char.not_lt.mp hspace, hquote, hslash⟩ :: pieces, rfl⟩

/-- The reader takes every string as what its pieces make. -/
theorem StringWritten.stringToken {text : Except Error String} (h : StringWritten text ('"' :: s))
    (rest : List Char) : stringToken (s ++ rest) = .ok (text, rest) := by
  obtain ⟨pieces, rfl, hs⟩ := h
  rw [List.cons.injEq] at hs
  rw [hs.2, List.append_assoc]
  exact stringToken_pieces pieces rest

/-- The reader takes nothing but strings. -/
theorem stringWritten_of_stringToken {text : Except Error String}
    (h : stringToken s = .ok (text, rest)) :
    ∃ t, s = t ++ rest ∧ StringWritten text ('"' :: t) := by
  have hbody : ∃ matters cs, stringBody matters s = .ok (cs, rest) := by
    unfold Json.stringToken at h
    split at h
    case h_1 cs left hstrict =>
      cases h
      exact ⟨true, cs, hstrict⟩
    case h_2 =>
      split at h
      case h_1 cs left hloose =>
        cases h
        exact ⟨false, cs, hloose⟩
      case h_2 => cases h
  obtain ⟨matters, cs, hbody⟩ := hbody
  obtain ⟨pieces, rfl⟩ := pieces_of_stringBody hbody
  rw [stringToken_pieces] at h
  cases h
  exact ⟨pieces.flatMap Piece.written ++ ['"'], by simp, pieces, rfl, rfl⟩

/-- A digit of a number below sixteen. -/
def hexDigit (n : Nat) : Char := Char.ofNat (if n < 10 then '0'.toNat + n else 'a'.toNat + (n - 10))

theorem hexValue?_hexDigit :
    ∀ n < 32, hexValue? '0' '0' (hexDigit (n / 16)) (hexDigit (n % 16)) = some n := by
  decide

/-- Every character has a piece that spells it, also in front of others. -/
theorem exists_piece (c : Char) : ∃ piece : Piece, ∀ pieces,
    Piece.spelled? (piece :: pieces) = (Piece.spelled? pieces).map (c :: ·) := by
  by_cases hspace : ' ' ≤ c
  · by_cases hquote : c = '"'
    · exact ⟨.short '"' c (by rw [hquote]; rfl), fun _ => rfl⟩
    by_cases hslash : c = '\\'
    · exact ⟨.short '\\' c (by rw [hslash]; rfl), fun _ => rfl⟩
    exact ⟨.plain c ⟨hspace, hquote, hslash⟩, fun _ => rfl⟩
  · have hlt : c.toNat < 32 := Nat.lt_of_not_le hspace
    refine ⟨.unit _ _ _ _ c.toNat (hexValue?_hexDigit c.toNat hlt), fun pieces => ?_⟩
    have hlow : ¬IsLowHalf c.toNat := fun h => by
      have := h.1
      omega
    have hhigh : ¬IsHighHalf c.toNat := fun h => by
      have := h.1
      omega
    rw [Piece.spelled?.eq_def]
    simp only [hlow, hhigh, if_false, Char.ofNat_toNat]

/-- Every string can be written. -/
theorem exists_stringWritten (text : String) : ∃ s, StringWritten (.ok text) s := by
  have hpieces (cs : List Char) : ∃ pieces, Piece.spelled? pieces = some cs := by
    induction cs with
    | nil => exact ⟨[], rfl⟩
    | cons c cs ih =>
      obtain ⟨pieces, hp⟩ := ih
      obtain ⟨piece, hpiece⟩ := exists_piece c
      exact ⟨piece :: pieces, by rw [hpiece, hp]; rfl⟩
  obtain ⟨pieces, hp⟩ := hpieces text.toList
  exact ⟨_, pieces, by simp [Piece.text, hp], rfl⟩

end RecordStore.Json

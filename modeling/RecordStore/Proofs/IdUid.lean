import RecordStore.IdUid
import RecordStore.Proofs.Text.Numerals

/-! The written form of ids with their uids: which texts stand for which, and why the others stand
for none. -/
namespace RecordStore.IdUid

open Text

variable {text : String} {front back : List Char} {x : IdUid} {e : IdUidError}

theorem splitColon_append (h : ':' ∉ front) (back : List Char) :
    splitColon (front ++ ':' :: back) = some (front, back) := by
  induction front with
  | nil => rfl
  | cons c front ih =>
    rw [List.mem_cons, not_or] at h
    have hc : c = ':' → False := fun he => h.1 he.symm
    rw [List.cons_append, splitColon.eq_3 _ _ hc, ih h.2]
    rfl

/-- The first colon of a text parts it in two. -/
def Parts (text : String) (front back : List Char) : Prop :=
  text.toList = front ++ ':' :: back ∧ ':' ∉ front

theorem parts_iff : Parts text front back ↔ splitColon text.toList = some (front, back) := by
  constructor
  · rintro ⟨htext, hfront⟩
    rw [htext, splitColon_append hfront]
  · exact eq_append_of_splitColon

theorem exists_parts (h : ':' ∈ text.toList) : ∃ front back, Parts text front back := by
  cases hs : splitColon text.toList with
  | none => exact absurd h ((splitColon_eq_none_iff _).mp hs)
  | some parts => exact ⟨parts.1, parts.2, parts_iff.mpr hs⟩

theorem parse_of_not_mem (h : ':' ∉ text.toList) : parse text = .error (.format text) := by
  rw [parse, (splitColon_eq_none_iff _).mpr h]

namespace Parts

theorem parse_of_some (h : Parts text front back) {id uid : Nat}
    (hid : Numeral.parse? UInt32.size (trim front) = some id)
    (huid : Numeral.parse? UInt64.size (trim back) = some uid) :
    parse text = .ok ⟨UInt32.ofNat id, UInt64.ofNat uid⟩ := by
  simp only [parse, parts_iff.mp h, hid, huid]

theorem parse_of_none (h : Parts text front back)
    (hnone : Numeral.parse? UInt32.size (trim front) = none ∨
      Numeral.parse? UInt64.size (trim back) = none) :
    parse text = .error (.number text) := by
  rcases hnone with hid | huid
  · simp only [parse, parts_iff.mp h, hid]
  · simp only [parse, parts_iff.mp h, huid]
    cases Numeral.parse? UInt32.size (trim front) <;> rfl

/-- The parts of a text have to be the numbers that it is read as. -/
theorem parse_eq_ok (h : Parts text front back) :
    parse text = .ok x ↔
      Numeral.Denotes front x.id.toNat ∧ Numeral.Denotes back x.uid.toNat := by
  have hid : Numeral.Denotes front x.id.toNat ↔
      Numeral.parse? UInt32.size (trim front) = some x.id.toNat := by
    rw [Numeral.parse?_trim, and_iff_left x.id.toNat_lt]
  have huid : Numeral.Denotes back x.uid.toNat ↔
      Numeral.parse? UInt64.size (trim back) = some x.uid.toNat := by
    rw [Numeral.parse?_trim, and_iff_left x.uid.toNat_lt]
  rw [hid, huid]
  constructor
  · intro hx
    cases hi : Numeral.parse? UInt32.size (trim front) with
    | none =>
      rw [h.parse_of_none (.inl hi)] at hx
      cases hx
    | some id =>
      cases hu : Numeral.parse? UInt64.size (trim back) with
      | none =>
        rw [h.parse_of_none (.inr hu)] at hx
        cases hx
      | some uid =>
        rw [h.parse_of_some hi hu] at hx
        cases hx
        exact ⟨congrArg some (UInt32.toNat_ofNat_of_lt' (Numeral.parse?_lt hi)).symm,
          congrArg some (UInt64.toNat_ofNat_of_lt' (Numeral.parse?_lt hu)).symm⟩
  · rintro ⟨hi, hu⟩
    rw [h.parse_of_some hi hu, UInt32.ofNat_toNat, UInt64.ofNat_toNat]

/-- A text with a colon is read, or faulted for its numbers. -/
theorem parse_cases (h : Parts text front back) :
    (∃ x, parse text = .ok x) ∨ parse text = .error (.number text) := by
  cases hi : Numeral.parse? UInt32.size (trim front) with
  | none => exact .inr (h.parse_of_none (.inl hi))
  | some id =>
    cases hu : Numeral.parse? UInt64.size (trim back) with
    | none => exact .inr (h.parse_of_none (.inr hu))
    | some uid => exact .inl ⟨_, h.parse_of_some hi hu⟩

end Parts

theorem parse_eq_ok_iff :
    parse text = .ok x ↔ ∃ front back, Parts text front back ∧
      Numeral.Denotes front x.id.toNat ∧ Numeral.Denotes back x.uid.toNat := by
  constructor
  · intro h
    by_cases hcolon : ':' ∈ text.toList
    · obtain ⟨front, back, hparts⟩ := exists_parts hcolon
      exact ⟨front, back, hparts, hparts.parse_eq_ok.mp h⟩
    · rw [parse_of_not_mem hcolon] at h
      cases h
  · rintro ⟨front, back, hparts, hnumbers⟩
    exact hparts.parse_eq_ok.mpr hnumbers

/-- A text is read if it has a number that fits on either side of its first colon. -/
theorem exists_parse_iff :
    (∃ x, parse text = .ok x) ↔
      ∃ front back, Parts text front back ∧ (∃ n < 2 ^ 32, Numeral.Denotes front n) ∧
        ∃ n < 2 ^ 64, Numeral.Denotes back n := by
  constructor
  · rintro ⟨x, hx⟩
    obtain ⟨front, back, hparts, hid, huid⟩ := parse_eq_ok_iff.mp hx
    exact ⟨front, back, hparts, ⟨_, x.id.toNat_lt, hid⟩, ⟨_, x.uid.toNat_lt, huid⟩⟩
  · rintro ⟨front, back, hparts, ⟨id, hlt, hid⟩, ⟨uid, hlt', huid⟩⟩
    refine ⟨⟨UInt32.ofNat id, UInt64.ofNat uid⟩, hparts.parse_eq_ok.mpr ⟨?_, ?_⟩⟩
    · rwa [UInt32.toNat_ofNat_of_lt' hlt]
    · rwa [UInt64.toNat_ofNat_of_lt' hlt']

/-- The fault of a text is told by whether it has a colon. -/
theorem parse_eq_error_iff :
    parse text = .error e ↔ e = .format text ∧ ':' ∉ text.toList ∨
      e = .number text ∧ ':' ∈ text.toList ∧ ¬∃ x, parse text = .ok x := by
  by_cases hcolon : ':' ∈ text.toList
  · obtain ⟨front, back, hparts⟩ := exists_parts hcolon
    rcases hparts.parse_cases with ⟨x, hx⟩ | hnumber
    · simp [hx, hcolon]
    · simp [hnumber, hcolon, eq_comm]
  · simp [parse_of_not_mem hcolon, hcolon, eq_comm]

/-- The digits of the id, a colon, and the digits of the uid. -/
theorem toList_render (x : IdUid) :
    x.render.toList = Nat.toDigits 10 x.id.toNat ++ ':' :: Nat.toDigits 10 x.uid.toNat := by
  rw [render, Nat.toString_eq_repr, Nat.toString_eq_repr, String.toList_append,
    String.toList_append, Nat.toList_repr, Nat.toList_repr, List.append_assoc]
  rfl

theorem parse_render (x : IdUid) : parse x.render = .ok x := by
  refine parse_eq_ok_iff.mpr ⟨_, _, ⟨toList_render x, ?_⟩,
    (Numeral.written_toDigits _).denotes, (Numeral.written_toDigits _).denotes⟩
  intro hcolon
  have hdigit := Nat.isDigit_of_mem_toDigits (by decide) (by decide) hcolon
  cases hdigit

/-- Every id with its uid is read back from its written form. The texts that are read are those
with a numeral for a number of 32 bits before their first colon and one for a number of 64 bits
behind it, with or without blanks around them. Any other text is faulted for its form if it has no
colon, and for its numbers if it has one. -/
theorem reads_written_form :
    (∀ (id : UInt32) (uid : UInt64), parse (render ⟨id, uid⟩) = .ok ⟨id, uid⟩) ∧
      ∀ text : String,
        (∀ x, parse text = .ok x ↔ ∃ front back, Parts text front back ∧
          Numeral.Denotes front x.id.toNat ∧ Numeral.Denotes back x.uid.toNat) ∧
        ((∃ x, parse text = .ok x) ↔ ∃ front back, Parts text front back ∧
          (∃ n < 2 ^ 32, Numeral.Denotes front n) ∧ ∃ n < 2 ^ 64, Numeral.Denotes back n) ∧
        (∀ e, parse text = .error e ↔ e = .format text ∧ ':' ∉ text.toList ∨
          e = .number text ∧ ':' ∈ text.toList ∧ ¬∃ x, parse text = .ok x) ∧
        ∀ x, parse text = .ok x → parse x.render = .ok x := by
  refine ⟨fun id uid => parse_render ⟨id, uid⟩, fun text => ⟨?_, ?_, ?_, ?_⟩⟩
  · exact fun x => parse_eq_ok_iff
  · exact exists_parse_iff
  · exact fun e => parse_eq_error_iff
  · exact fun x _ => parse_render x

example : parse "\t+007: 00 " = .ok ⟨7, 0⟩ := by rfl

example : parse "1:2:3" = .error (.number "1:2:3") := by rfl

end RecordStore.IdUid

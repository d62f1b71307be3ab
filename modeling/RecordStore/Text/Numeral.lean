/-! Unsigned decimal numerals. -/
namespace RecordStore.Text.Numeral

/-- The number that digits write, after `n` has been read. -/
def value (n : Nat) (digits : List Char) : Nat :=
  digits.foldl (fun n c => 10 * n + (c.toNat - '0'.toNat)) n

/-- Reads digits one by one, after `n` has been read, as long as the number stays below `bound`. -/
def extend? (bound n : Nat) : List Char → Option Nat
  | [] => some n
  | c :: rest =>
    if c.isDigit then
      let next := 10 * n + (c.toNat - '0'.toNat)
      if next < bound then extend? bound next rest else none
    else none

/-- Reads a numeral below `bound`: one or more digits, after an optional plus sign. Leading
zeros are allowed. -/
def parse? (bound : Nat) (s : List Char) : Option Nat :=
  let digits := match s with
    | '+' :: rest => rest
    | s => s
  if digits.isEmpty then none else extend? bound 0 digits

theorem extend?_lt {bound n m : Nat} {digits : List Char} (hn : n < bound ∨ digits ≠ [])
    (h : extend? bound n digits = some m) : m < bound := by
  fun_induction extend? bound n digits with
  | case1 n =>
    cases h
    exact hn.resolve_right (fun hne => hne rfl)
  | case2 n c rest hc next hnext ih => exact ih (.inl hnext) h
  | case3 => cases h
  | case4 => cases h

theorem parse?_lt {bound : Nat} {s : List Char} {n : Nat} (h : parse? bound s = some n) :
    n < bound := by
  obtain ⟨hne, h⟩ := Option.ite_none_left_eq_some.mp h
  exact extend?_lt (.inr (by simpa using hne)) h

end RecordStore.Text.Numeral

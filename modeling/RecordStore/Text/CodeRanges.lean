/-! Sets of characters given by inclusive ranges of code points. -/
namespace RecordStore.Text

/-- Pairs of the first and the last code point of each range. -/
abbrev CodeRanges := List (Nat × Nat)

def CodeRanges.contains (ranges : CodeRanges) (c : Char) : Bool :=
  ranges.any fun (low, high) => low ≤ c.toNat && c.toNat ≤ high

theorem CodeRanges.contains_iff (ranges : CodeRanges) (c : Char) :
    ranges.contains c = true ↔
      ∃ low high, (low, high) ∈ ranges ∧ low ≤ c.toNat ∧ c.toNat ≤ high := by
  simp [CodeRanges.contains]

end RecordStore.Text

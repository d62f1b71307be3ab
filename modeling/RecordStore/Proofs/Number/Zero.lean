import RecordStore.Buffer.Scalar

/-! The two zeros of a floating point format, which count as equal and are stored as one. -/
namespace RecordStore

open Buffer (Scalar)

theorem compareUnits_zero (x : Option Int) :
    compareUnits (· == ·) x (some 0) = decide (x = some 0) := by
  cases x with
  | none => rfl
  | some n => by_cases h : n = 0 <;> simp [compareUnits, h]

namespace Binary32

/-- The number, with the negative zero made positive. -/
def normalized (x : Binary32) : Binary32 := if x.bits = 0x80000000 then ⟨0⟩ else x

theorem magnitude_eq_zero {x : Binary32} :
    x.magnitude = 0 ↔ x.bits = 0 ∨ x.bits = 0x80000000 := by
  have hlt := x.bits.toNat_lt
  have hbits : x.bits = 0 ∨ x.bits = 0x80000000 ↔ x.exponent = 0 ∧ x.fraction = 0 := by
    rw [← UInt32.toNat_inj, ← UInt32.toNat_inj, exponent, fraction, Nat.shiftRight_eq_div_pow,
      Nat.one_shiftLeft]
    simp only [UInt32.toNat_zero, UInt32.reduceToNat]
    omega
  rw [hbits, magnitude]
  by_cases h255 : x.exponent = 255
  · simp [h255]
  · by_cases h0 : x.exponent = 0
    · simp [h0]
    · simp [h0, h255]

theorem units?_eq_zero {x : Binary32} : x.units? = some 0 ↔ x.bits = 0 ∨ x.bits = 0x80000000 := by
  rw [← magnitude_eq_zero, units?]
  by_cases hn : x.isNaN
  · have he : x.exponent = 255 := by
      rw [isNaN, Bool.and_eq_true, beq_iff_eq] at hn
      exact hn.1
    simp [hn, magnitude, he]
  · by_cases hs : x.negative <;> simp [hn, hs]

theorem same_zero (x : Binary32) : Scalar.same x ⟨0⟩ = decide (x.units? = some 0) :=
  compareUnits_zero x.units?

theorem normalized_of_same {x : Binary32} (h : Scalar.same x ⟨0⟩ = true) :
    x.normalized = ⟨0⟩ := by
  rw [same_zero, decide_eq_true_eq, units?_eq_zero] at h
  obtain ⟨bits⟩ := x
  rcases h with rfl | rfl <;> rfl

theorem normalized_of_not_same {x : Binary32} (h : Scalar.same x ⟨0⟩ = false) :
    x.normalized = x := by
  rw [same_zero, decide_eq_false_iff_not, units?_eq_zero, not_or] at h
  rw [normalized, if_neg h.2]

theorem same_zero_iff {x : Binary32} : Scalar.same x ⟨0⟩ = true ↔ x.normalized = ⟨0⟩ := by
  refine ⟨normalized_of_same, ?_⟩
  intro h
  cases hn : Scalar.same x ⟨0⟩ with
  | true => rfl
  | false =>
    have hx : x = ⟨0⟩ := normalized_of_not_same hn ▸ h
    rw [hx] at hn
    exact absurd hn (by decide)

theorem units?_normalized (x : Binary32) : x.normalized.units? = x.units? := by
  rw [normalized]
  by_cases h : x.bits = 0x80000000
  · rw [if_pos h, units?_eq_zero.mpr (.inr h)]
    rfl
  · rw [if_neg h]

@[simp] theorem normalized_normalized (x : Binary32) : x.normalized.normalized = x.normalized := by
  by_cases h : x.bits = 0x80000000
  · have hx : x.normalized = ⟨0⟩ := if_pos h
    rw [hx]
    rfl
  · have hx : x.normalized = x := if_neg h
    rw [hx, hx]

end Binary32

namespace Binary64

/-- The number, with the negative zero made positive. -/
def normalized (x : Binary64) : Binary64 := if x.bits = 0x8000000000000000 then ⟨0⟩ else x

theorem magnitude_eq_zero {x : Binary64} :
    x.magnitude = 0 ↔ x.bits = 0 ∨ x.bits = 0x8000000000000000 := by
  have hlt := x.bits.toNat_lt
  have hbits : x.bits = 0 ∨ x.bits = 0x8000000000000000 ↔ x.exponent = 0 ∧ x.fraction = 0 := by
    rw [← UInt64.toNat_inj, ← UInt64.toNat_inj, exponent, fraction, Nat.shiftRight_eq_div_pow,
      Nat.one_shiftLeft]
    simp only [UInt64.toNat_zero, UInt64.reduceToNat]
    omega
  rw [hbits, magnitude, significand]
  by_cases h0 : x.exponent = 0
  · simp [h0]
  · simp [h0]

theorem units?_eq_zero {x : Binary64} :
    x.units? = some 0 ↔ x.bits = 0 ∨ x.bits = 0x8000000000000000 := by
  rw [← magnitude_eq_zero, units?]
  by_cases hn : x.isNaN
  · have he : x.exponent = 2047 := by
      rw [isNaN, Bool.and_eq_true, beq_iff_eq] at hn
      exact hn.1
    simp [hn, magnitude, significand, he]
  · by_cases hs : x.negative <;> simp [hn, hs]

theorem same_zero (x : Binary64) : Scalar.same x ⟨0⟩ = decide (x.units? = some 0) :=
  compareUnits_zero x.units?

theorem normalized_of_same {x : Binary64} (h : Scalar.same x ⟨0⟩ = true) :
    x.normalized = ⟨0⟩ := by
  rw [same_zero, decide_eq_true_eq, units?_eq_zero] at h
  obtain ⟨bits⟩ := x
  rcases h with rfl | rfl <;> rfl

theorem normalized_of_not_same {x : Binary64} (h : Scalar.same x ⟨0⟩ = false) :
    x.normalized = x := by
  rw [same_zero, decide_eq_false_iff_not, units?_eq_zero, not_or] at h
  rw [normalized, if_neg h.2]

theorem same_zero_iff {x : Binary64} : Scalar.same x ⟨0⟩ = true ↔ x.normalized = ⟨0⟩ := by
  refine ⟨normalized_of_same, ?_⟩
  intro h
  cases hn : Scalar.same x ⟨0⟩ with
  | true => rfl
  | false =>
    have hx : x = ⟨0⟩ := normalized_of_not_same hn ▸ h
    rw [hx] at hn
    exact absurd hn (by decide)

theorem units?_normalized (x : Binary64) : x.normalized.units? = x.units? := by
  rw [normalized]
  by_cases h : x.bits = 0x8000000000000000
  · rw [if_pos h, units?_eq_zero.mpr (.inr h)]
    rfl
  · rw [if_neg h]

@[simp] theorem normalized_normalized (x : Binary64) : x.normalized.normalized = x.normalized := by
  by_cases h : x.bits = 0x8000000000000000
  · have hx : x.normalized = ⟨0⟩ := if_pos h
    rw [hx]
    rfl
  · have hx : x.normalized = x := if_neg h
    rw [hx, hx]

end Binary64

end RecordStore

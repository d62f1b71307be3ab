/-! Binary floating point numbers, kept as their bits and compared by their exact values. -/
namespace RecordStore

/-- A number of the 32-bit binary format. -/
structure Binary32 where
  bits : UInt32
  deriving DecidableEq, Repr, Inhabited

/-- A number of the 64-bit binary format. -/
structure Binary64 where
  bits : UInt64
  deriving DecidableEq, Repr, Inhabited

namespace Binary64

def negative (x : Binary64) : Bool := x.bits.toNat >>> 63 == 1

def exponent (x : Binary64) : Nat := (x.bits.toNat >>> 52) % 2048

def fraction (x : Binary64) : Nat := x.bits.toNat % (1 <<< 52)

def isNaN (x : Binary64) : Bool := x.exponent == 2047 && x.fraction != 0

def isInfinite (x : Binary64) : Bool := x.exponent == 2047 && x.fraction == 0

/-- The whole number `m` with `m * 2 ^ (max exponent 1 - 1075)` the magnitude. -/
def significand (x : Binary64) : Nat :=
  if x.exponent = 0 then x.fraction else (1 <<< 52) + x.fraction

/-- The magnitude in units of the least positive number; an infinity exceeds every number. -/
def magnitude (x : Binary64) : Nat := x.significand <<< (x.exponent - 1)

/-- The value in units of the least positive number; a NaN has none. -/
def units? (x : Binary64) : Option Int :=
  if x.isNaN then none else some (if x.negative then -x.magnitude else x.magnitude)

end Binary64

namespace Binary32

def negative (x : Binary32) : Bool := x.bits.toNat >>> 31 == 1

def exponent (x : Binary32) : Nat := (x.bits.toNat >>> 23) % 256

def fraction (x : Binary32) : Nat := x.bits.toNat % (1 <<< 23)

def isNaN (x : Binary32) : Bool := x.exponent == 255 && x.fraction != 0

/-- The magnitude in units of the least positive number of the 64-bit format. -/
def magnitude (x : Binary32) : Nat :=
  if x.exponent = 255 then 1 <<< 2098
  else (if x.exponent = 0 then x.fraction else (1 <<< 23) + x.fraction) <<< (x.exponent - 1 + 925)

/-- The value in units of the least positive number of the 64-bit format; a NaN has none. -/
def units? (x : Binary32) : Option Int :=
  if x.isNaN then none else some (if x.negative then -x.magnitude else x.magnitude)

end Binary32

/-- Comparisons of values of which a NaN has none: a NaN compares as false with everything. -/
def compareUnits (holds : Int → Int → Bool) : Option Int → Option Int → Bool
  | some x, some y => holds x y
  | _, _ => false

namespace Binary64

/-- The nearest number to `num / den`, ties to the even significand; none if it is too large. -/
def ofRatio? (num den : Nat) : Option Binary64 :=
  if num = 0 then some ⟨0⟩
  else
    let q : Int := (Nat.log2 num : Int) - Nat.log2 den - 53
    let fits (q : Int) : Bool := num <<< (-q).toNat < den <<< (q.toNat + 53)
    let q := max (if fits q then q else q + 1) (-1074)
    let n := num <<< (-q).toNat
    let d := den <<< q.toNat
    let m := n / d
    let twice := 2 * (n % d)
    let m := if twice > d ∨ (twice = d ∧ m % 2 = 1) then m + 1 else m
    let bits := ((q + 1074).toNat <<< 52) + m
    if bits < 2047 <<< 52 then some ⟨UInt64.ofNat bits⟩ else none

/-- The number with the sign turned. -/
def negate (x : Binary64) : Binary64 := ⟨x.bits ^^^ 0x8000000000000000⟩

example : ofRatio? 1 10 = some ⟨0x3FB999999999999A⟩ := by decide +kernel

example : ofRatio? (1 <<< 1024) 1 = none := by decide +kernel

end Binary64

end RecordStore

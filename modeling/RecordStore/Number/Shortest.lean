import RecordStore.Number.Binary

/-! The shortest decimal that reads back as a binary number, and the layouts it is written in. -/
namespace RecordStore.Shortest

/-- A positive decimal: the digits stand for `digits * 10 ^ exponent`. -/
structure Decimal where
  digits : Nat
  exponent : Int
  deriving DecidableEq, Repr

/-- Decimal digits of a number, most significant first. -/
def digitsOf (n : Nat) : List Char := Nat.toDigits 10 n

def Decimal.order (d : Decimal) : Int := (digitsOf d.digits).length - 1 + d.exponent

/-- The least `k ≥ 1` with `den ≤ num * 10 ^ k`, looked for in `fuel` steps from `k`. -/
def leadingZeros (num den : Nat) : Nat → Nat → Nat
  | 0, k => k
  | fuel + 1, k => if den ≤ num * Nat.pow 10 k then k else leadingZeros num den fuel (k + 1)

/-- The power of ten of the first digit of `num / den`. -/
def orderOf (num den : Nat) : Int :=
  if den ≤ num then (digitsOf (num / den)).length - 1
  else -(leadingZeros num den (Nat.log2 den + 1) 1 : Nat)

/-- A magnitude `m * 2 ^ q` with the two gaps to its neighbours: the gap below is half the gap
above where the exponent field changes. All three are numerators over one denominator. -/
structure Span where
  low : Nat
  middle : Nat
  high : Nat
  denominator : Nat
  /-- The ends of the span read back as the number too. -/
  closed : Bool

/-- The span of the reals that read back as a positive number. -/
def Span.ofBinary (x : Binary64) : Span :=
  let m := 4 * x.significand
  let q : Int := (max x.exponent 1 : Nat) - 1077
  let below := if x.fraction = 0 ∧ 1 < x.exponent then 1 else 2
  let s := 1 <<< q.toNat
  { low := (m - below) * s, middle := m * s, high := (m + 2) * s
    denominator := 1 <<< (-q).toNat, closed := x.significand % 2 = 0 }

def Span.holds (s : Span) (d : Nat) (e : Int) : Bool :=
  let n := d * Nat.pow 10 e.toNat * s.denominator
  let scale := Nat.pow 10 (-e).toNat
  if s.closed then s.low * scale ≤ n && n ≤ s.high * scale
  else s.low * scale < n && n < s.high * scale

/-- The decimal on the grid of `10 ^ e` that reads back, the nearer one of two and the upper one
of a tie; none if neither neighbour on the grid reads back. -/
def Span.nearest? (s : Span) (e : Int) : Option Nat :=
  let num := s.middle * Nat.pow 10 (-e).toNat
  let den := s.denominator * Nat.pow 10 e.toNat
  let d := num / den
  match s.holds d e, s.holds (d + 1) e with
  | true, true => some (if den ≤ 2 * (num % den) then d + 1 else d)
  | true, false => some d
  | false, true => some (d + 1)
  | false, false => none

/-- The first grid with a hit, from the power `e` downwards. -/
def Span.search (s : Span) : Nat → Int → Option Decimal
  | 0, _ => none
  | fuel + 1, e =>
    match s.nearest? e with
    | some d => some ⟨d, e⟩
    | none => s.search fuel (e - 1)

/-- The shortest decimal that reads back as a positive finite number. Seventeen digits always
suffice. -/
def ofBinary (x : Binary64) : Decimal :=
  let s := Span.ofBinary x
  (s.search 18 (orderOf s.middle s.denominator)).getD ⟨0, 0⟩

/-- Drops zeros from the end of the digits, each for a power of ten. -/
def Decimal.normalize (d : Decimal) : Decimal :=
  let zeros := ((digitsOf d.digits).reverse.takeWhile (· == '0')).length
  if d.digits = 0 then d else ⟨d.digits / Nat.pow 10 zeros, d.exponent + zeros⟩

/-- How a decimal is written: positionally for first digits within the two powers of ten, and
otherwise with an exponent. -/
structure Layout where
  positional : Int → Bool
  /-- A whole number ends in a point and a zero. -/
  keepsPoint : Bool
  /-- A positive exponent carries its sign. -/
  signsExponent : Bool

/-- Every number is written positionally, whole ones without a point. -/
def Layout.plain : Layout := ⟨fun _ => true, false, false⟩

/-- Numbers from `10 ^ -4` below `10 ^ 16` are written positionally, always with a point. -/
def Layout.pointed : Layout := ⟨fun e => -4 ≤ e && e ≤ 15, true, false⟩

/-- Numbers from `10 ^ -5` below `10 ^ 16` are written positionally, and exponents are signed. -/
def Layout.signed : Layout := ⟨fun e => -5 ≤ e && e ≤ 15, true, true⟩

/-- Digits with the point after the first `order + 1` of them, zeros filled in. -/
def positionalText (keepsPoint : Bool) (digits : List Char) (order : Int) : List Char :=
  if order < 0 then
    ['0', '.'] ++ List.replicate (-order - 1).toNat '0' ++ digits
  else
    let whole := order.toNat + 1
    if digits.length ≤ whole then
      digits ++ List.replicate (whole - digits.length) '0' ++ if keepsPoint then ['.', '0'] else []
    else digits.take whole ++ ['.'] ++ digits.drop whole

/-- One digit, the point and the others if there are any, and the exponent. -/
def exponentText (signs : Bool) (digits : List Char) (order : Int) : List Char :=
  let sign := if order < 0 then ['-'] else if signs then ['+'] else []
  digits.take 1 ++ (if digits.length ≤ 1 then [] else '.' :: digits.drop 1) ++
    ['e'] ++ sign ++ digitsOf order.natAbs

def Layout.text (l : Layout) (d : Decimal) : List Char :=
  let digits := digitsOf d.normalize.digits
  if l.positional d.order then positionalText l.keepsPoint digits d.order
  else exponentText l.signsExponent digits d.order

def Layout.render (l : Layout) (x : Binary64) : String :=
  if x.isNaN then "NaN"
  else
    let body :=
      if x.isInfinite then ['i', 'n', 'f']
      else if x.magnitude = 0 then positionalText l.keepsPoint ['0'] 0
      else l.text (ofBinary x)
    String.ofList (if x.negative then '-' :: body else body)

example : Layout.plain.render ⟨0x3FB999999999999A⟩ = "0.1" := by decide +kernel

example : Layout.pointed.render ⟨0x4341C37937E08000⟩ = "1e16" := by decide +kernel

example : Layout.pointed.render ⟨1⟩ = "5e-324" := by decide +kernel

end RecordStore.Shortest

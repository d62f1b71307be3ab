import RecordStore.Json.Error
import RecordStore.Text.Numeral

/-! Strings and numbers of the format, read from the front of a text. -/
namespace RecordStore.Json

def isSpace (c : Char) : Bool := c == ' ' || c == '\n' || c == '\t' || c == '\r'

def skipSpace (s : List Char) : List Char := s.dropWhile isSpace

def word : List Char → List Char → Except Error (List Char)
  | [], s => .ok s
  | _ :: _, [] => .error .incomplete
  | c :: rest, d :: s => if c = d then word rest s else .error .malformed

def hexDigit? (c : Char) : Option Nat :=
  if '0' ≤ c ∧ c ≤ '9' then some (c.toNat - '0'.toNat)
  else if 'a' ≤ c ∧ c ≤ 'f' then some (c.toNat - 'a'.toNat + 10)
  else if 'A' ≤ c ∧ c ≤ 'F' then some (c.toNat - 'A'.toNat + 10)
  else none

def hexValue? (a b c d : Char) : Option Nat := do
  return 4096 * (← hexDigit? a) + 256 * (← hexDigit? b) + 16 * (← hexDigit? c) + (← hexDigit? d)

def byteLength (s : List Char) : Nat := s.foldr (fun c n => c.utf8Size + n) 0

/-- Reads four hexadecimal digits. A text of fewer than four bytes has ended too early, whatever
it holds. -/
def codeUnit : List Char → Except Error (Nat × List Char)
  | a :: b :: c :: d :: rest =>
    match hexValue? a b c d with
    | some n => .ok (n, rest)
    | none => .error .malformed
  | s => .error (if byteLength s < 4 then .incomplete else .malformed)

/-- The characters that a backslash and one letter stand for. -/
def shortEscape? : Char → Option Char
  | '"' => some '"'
  | '\\' => some '\\'
  | '/' => some '/'
  | 'b' => some '\x08'
  | 'f' => some '\x0C'
  | 'n' => some '\n'
  | 'r' => some '\r'
  | 't' => some '\t'
  | _ => none

/-- Reads the second half of a surrogate pair whose first half is `high`. -/
def pairedUnit (high : Nat) : List Char → Except Error (Char × List Char)
  | '\\' :: 'u' :: rest => do
    let (low, rest) ← codeUnit rest
    if 0xDC00 ≤ low ∧ low ≤ 0xDFFF then
      .ok (Char.ofNat (0x10000 + (high - 0xD800) * 0x400 + (low - 0xDC00)), rest)
    else .error .malformed
  | [] | ['\\'] => .error .incomplete
  | _ => .error .malformed

/-- Reads what follows a backslash. Halves of surrogate pairs have to match only where the
string matters. -/
def escaped (matters : Bool) : List Char → Except Error (Char × List Char)
  | 'u' :: rest => do
    let (n, rest) ← codeUnit rest
    if !matters then .ok (Char.ofNat n, rest)
    else if 0xDC00 ≤ n ∧ n ≤ 0xDFFF then .error .malformed
    else if 0xD800 ≤ n ∧ n ≤ 0xDBFF then pairedUnit n rest
    else .ok (Char.ofNat n, rest)
  | c :: rest =>
    match shortEscape? c with
    | some e => .ok (e, rest)
    | none => .error .malformed
  | [] => .error .incomplete

theorem length_codeUnit {s r : List Char} {n : Nat} (h : codeUnit s = .ok (n, r)) :
    r.length < s.length := by
  unfold codeUnit at h
  split at h
  · split at h
    · simp only [Except.ok.injEq, Prod.mk.injEq] at h
      simp only [← h.2, List.length_cons]; omega
    · cases h
  · cases h

theorem length_pairedUnit {high : Nat} {s r : List Char} {c : Char}
    (h : pairedUnit high s = .ok (c, r)) : r.length < s.length := by
  unfold pairedUnit at h
  split at h
  · simp only [bind, Except.bind] at h
    split at h
    · cases h
    · rename_i p hp
      have := length_codeUnit (r := p.2) (n := p.1) hp
      split at h
      · simp only [Except.ok.injEq, Prod.mk.injEq] at h
        simp only [← h.2, List.length_cons]; omega
      · cases h
  all_goals cases h

theorem length_escaped {matters : Bool} {s r : List Char} {c : Char}
    (h : escaped matters s = .ok (c, r)) : r.length < s.length := by
  unfold escaped at h
  split at h
  · simp only [bind, Except.bind] at h
    split at h
    · cases h
    · rename_i p hp
      have := length_codeUnit (r := p.2) (n := p.1) hp
      split at h
      · simp only [Except.ok.injEq, Prod.mk.injEq] at h
        simp only [← h.2, List.length_cons]; omega
      · split at h
        · cases h
        · split at h
          · have := length_pairedUnit h
            simp only [List.length_cons]; omega
          · simp only [Except.ok.injEq, Prod.mk.injEq] at h
            simp only [← h.2, List.length_cons]; omega
  · split at h
    · simp only [Except.ok.injEq, Prod.mk.injEq] at h
      simp [← h.2]
    · cases h
  · cases h

/-- Reads the characters of a string after its opening quote, and the closing quote. -/
def stringBody (matters : Bool) (s : List Char) : Except Error (List Char × List Char) :=
  match s with
  | [] => .error .incomplete
  | '"' :: rest => .ok ([], rest)
  | '\\' :: rest =>
    match _h : escaped matters rest with
    | .error e => .error e
    | .ok (c, rest) =>
      match stringBody matters rest with
      | .error e => .error e
      | .ok (cs, rest) => .ok (c :: cs, rest)
  | c :: rest =>
    if c < ' ' then .error .malformed
    else
      match stringBody matters rest with
      | .error e => .error e
      | .ok (cs, rest) => .ok (c :: cs, rest)
termination_by s.length
decreasing_by
  · have := length_escaped _h
    simp only [List.length_cons]; omega
  · simp

/-- A number as written. -/
structure Numeral where
  negative : Bool
  whole : List Char
  fraction : List Char
  /-- Whether the exponent is negative, and its digits. -/
  exponent : Option (Bool × List Char)
  deriving DecidableEq, Repr

/-- Reads one or more digits; `onEnd` is the fault of a text that ends before them. -/
def digits (onEnd : Error) (s : List Char) : Except Error (List Char × List Char) :=
  match s with
  | [] => .error onEnd
  | c :: _ =>
    if c.isDigit then .ok (s.takeWhile Char.isDigit, s.dropWhile Char.isDigit)
    else .error .malformed

/-- Reads the digits before the point: a zero only stands alone. -/
def wholeDigits (onEnd : Error) (s : List Char) : Except Error (List Char × List Char) :=
  match s with
  | '0' :: c :: rest => if c.isDigit then .error .malformed else .ok (['0'], c :: rest)
  | s => digits onEnd s

/-- Reads a point and the digits after it, if there is one. -/
def fractionDigits (onEnd : Error) (s : List Char) : Except Error (List Char × List Char) :=
  match s with
  | '.' :: rest => digits onEnd rest
  | s => .ok ([], s)

def exponentDigits (onEnd : Error) (s : List Char) :
    Except Error (Option (Bool × List Char) × List Char) :=
  let signed (rest : List Char) : Except Error (Option (Bool × List Char) × List Char) := do
    let (negative, rest) := match rest with
      | '-' :: rest => (true, rest)
      | '+' :: rest => (false, rest)
      | rest => (false, rest)
    let (ds, rest) ← digits onEnd rest
    return (some (negative, ds), rest)
  match s with
  | 'e' :: rest => signed rest
  | 'E' :: rest => signed rest
  | s => .ok (none, s)

def numeral (onEnd : Error) (negative : Bool) (s : List Char) :
    Except Error (Numeral × List Char) := do
  let (whole, s) ← wholeDigits onEnd s
  let (fraction, s) ← fractionDigits onEnd s
  let (exponent, s) ← exponentDigits onEnd s
  return (⟨negative, whole, fraction, exponent⟩, s)

/-- Takes digits into a number as long as it fits 64 bits, and gives the digits left over. -/
def accumulate (n : Nat) : List Char → Nat × List Char
  | [] => (n, [])
  | d :: rest =>
    let next := 10 * n + (d.toNat - '0'.toNat)
    if next < UInt64.size then accumulate next rest else (n, d :: rest)

/-- A number scaled by a power of ten in one rounded step, or in more than one where the power
itself is out of range; none if the result is too large. -/
def scaled? : Nat → Binary64 → Int → Option Binary64
  | 0, _, _ => none
  | fuel + 1, x, e => do
    let power ← Binary64.ofRatio? (Nat.pow 10 (min e.natAbs 308)) 1
    if e.natAbs ≤ 308 then
      if 0 ≤ e then Binary64.ofRatio? (x.magnitude * power.magnitude) (1 <<< 2148)
      else Binary64.ofRatio? x.magnitude power.magnitude
    else if x.magnitude = 0 then some x
    else if 0 ≤ e then none
    else scaled? fuel (← Binary64.ofRatio? x.magnitude power.magnitude) (e + 308)

/-- The value of a number: an integer where it is written as one within 64 bits, and otherwise a
float from the leading digits; none if it is too large for a float. Zero with a minus sign is a
float. -/
def Numeral.value? (n : Numeral) : Option Found := do
  let (significand, rest) := accumulate 0 n.whole
  let signed (x : Binary64) : Found := .float (if n.negative then x.negate else x)
  let integral := n.fraction.isEmpty && n.exponent.isNone && rest.isEmpty
  if integral && !n.negative then return .integer significand
  else if integral && 0 < significand && significand ≤ 1 <<< 63 then return .integer (-significand)
  else
    let (significand, left) := accumulate significand n.fraction
    let start : Int := (rest.length : Int) - (n.fraction.length - left.length : Nat)
    let f ← Binary64.ofRatio? significand 1
    match n.exponent with
    | none => return signed (← scaled? 5 f start)
    | some (negative, ds) =>
      let e := Text.Numeral.value 0 ds
      let shift : Int := if negative then -(e : Int) else e
      if e < 1 <<< 31 then return signed (← scaled? 5 f (start + shift))
      else if significand ≠ 0 && !negative then none
      else return signed ⟨0⟩

end RecordStore.Json

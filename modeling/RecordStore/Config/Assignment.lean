import RecordStore.Text.Identifier
import RecordStore.Text.Numeral

/-! Assignments of strings to keys, one to a line, with comments and blank lines between them. -/
namespace RecordStore.Config.Assignment

/-- Characters that a comment or a string on one line may hold. -/
def isPlain (c : Char) : Bool := c == '\t' || (' ' ≤ c && c != '\x7F')

def isGap (c : Char) : Bool := c == ' ' || c == '\t'

def skipGap (s : List Char) : List Char := s.dropWhile isGap

def isHexDigit (c : Char) : Bool :=
  c.isDigit || ('a' ≤ c && c ≤ 'f') || ('A' ≤ c && c ≤ 'F')

def hexValue (c : Char) : Nat :=
  if c.isDigit then c.toNat - '0'.toNat
  else if 'a' ≤ c then c.toNat - 'a'.toNat + 10
  else c.toNat - 'A'.toNat + 10

/-- Reads the hexadecimal code point of a character, with the given number of digits. -/
def codePoint? (width : Nat) (s : List Char) : Option (Char × List Char) :=
  let digits := s.take width
  let n := digits.foldl (fun n c => 16 * n + hexValue c) 0
  if digits.length = width ∧ digits.all isHexDigit ∧ n.isValidChar then
    some (Char.ofNat n, s.drop width)
  else none

def escape? : List Char → Option (Char × List Char)
  | 'b' :: s => some ('\x08', s)
  | 't' :: s => some ('\t', s)
  | 'n' :: s => some ('\n', s)
  | 'f' :: s => some ('\x0C', s)
  | 'r' :: s => some ('\r', s)
  | 'e' :: s => some ('\x1B', s)
  | '"' :: s => some ('"', s)
  | '\\' :: s => some ('\\', s)
  | 'x' :: s => codePoint? 2 s
  | 'u' :: s => codePoint? 4 s
  | 'U' :: s => codePoint? 8 s
  | _ => none

theorem length_codePoint? {width : Nat} {s r : List Char} {c : Char}
    (h : codePoint? width s = some (c, r)) : r.length ≤ s.length := by
  simp only [codePoint?, Option.ite_none_right_eq_some, Option.some.injEq, Prod.mk.injEq] at h
  simp [← h.2.2]

theorem length_escape? {s r : List Char} {c : Char} (h : escape? s = some (c, r)) :
    r.length < s.length := by
  unfold escape? at h
  split at h
  case h_9 | h_10 | h_11 =>
    have := length_codePoint? h
    simp only [List.length_cons]; omega
  all_goals cases h
  all_goals simp

/-- Reads a string with escapes on one line, after its opening quote. -/
def escaped? (s : List Char) : Option (List Char × List Char) :=
  match s with
  | '"' :: s => some ([], s)
  | '\\' :: s =>
    match _h : escape? s with
    | some (c, s) => (escaped? s).map fun (cs, s) => (c :: cs, s)
    | none => none
  | c :: s => if isPlain c then (escaped? s).map fun (cs, s) => (c :: cs, s) else none
  | [] => none
termination_by s.length
decreasing_by
  · have := length_escape? _h
    simp only [List.length_cons]; omega
  · simp

/-- Reads a string without escapes on one line, after its opening quote. -/
def plain? : List Char → Option (List Char × List Char)
  | '\'' :: s => some ([], s)
  | c :: s => if isPlain c then (plain? s).map fun (cs, s) => (c :: cs, s) else none
  | [] => none

/-- The rest of a text after the three quotes that end a string, and up to two more quotes, which
belong to the string. -/
def closing? (quote : Char) : List Char → Option (List Char × List Char)
  | a :: b :: c :: s =>
    if a = quote ∧ b = quote ∧ c = quote then
      let more := ((s.take 2).takeWhile (· == quote)).length
      some (List.replicate more quote, s.drop more)
    else none
  | _ => none

/-- Where the next character of a string over several lines stands. -/
inductive Place
  | text
  /-- After a backslash that has to end its line. -/
  | breaking
  /-- After a backslash and the end of its line, where blanks and line ends are dropped. -/
  | broken
  deriving DecidableEq, Repr

/-- Whether a string over several lines may hold the character that is followed by `s`. -/
def isLinesPlain (c : Char) (s : List Char) : Bool :=
  isPlain c || c == '\n' || (c == '\r' && s.head? == some '\n')

/-- Reads a string with escapes over several lines, after its opening quotes. -/
def escapedLines? (place : Place) (s : List Char) : Option (List Char × List Char) :=
  match place, s with
  | _, [] => none
  | .breaking, '\n' :: s | .breaking, '\r' :: '\n' :: s => escapedLines? .broken s
  | .breaking, c :: s => if isGap c then escapedLines? .breaking s else none
  | .broken, '\r' :: '\n' :: s => escapedLines? .broken s
  | place, c :: s =>
    if place = .broken ∧ (isGap c ∨ c = '\n') then escapedLines? .broken s
    else
      match closing? '"' (c :: s) with
      | some (cs, s) => some (cs, s)
      | none =>
        if c = '\\' then
          match _h : escape? s with
          | some (c, s) => (escapedLines? .text s).map fun (cs, s) => (c :: cs, s)
          | none => escapedLines? .breaking s
        else if isLinesPlain c s then
          (escapedLines? .text s).map fun (cs, s) => (c :: cs, s)
        else none
termination_by s.length
decreasing_by
  all_goals try have := length_escape? _h
  all_goals simp only [List.length_cons]; omega

/-- Reads a string without escapes over several lines, after its opening quotes. -/
def plainLines? (s : List Char) : Option (List Char × List Char) :=
  match s with
  | [] => none
  | c :: s =>
    match closing? '\'' (c :: s) with
    | some (cs, s) => some (cs, s)
    | none => if isLinesPlain c s then (plainLines? s).map fun (cs, s) => (c :: cs, s) else none

def dropLineEnd : List Char → List Char
  | '\n' :: s => s
  | '\r' :: '\n' :: s => s
  | s => s

def value? : List Char → Option (List Char × List Char)
  | '"' :: '"' :: '"' :: s => escapedLines? .text (dropLineEnd s)
  | '\'' :: '\'' :: '\'' :: s => plainLines? (dropLineEnd s)
  | '"' :: s => escaped? s
  | '\'' :: s => plain? s
  | _ => none

def isKeyChar (c : Char) : Bool := c.isAlphanum || c == '_' || c == '-'

def key? : List Char → Option (List Char × List Char)
  | '"' :: s => escaped? s
  | '\'' :: s => plain? s
  | s =>
    let key := s.takeWhile isKeyChar
    if key.isEmpty then none else some (key, s.dropWhile isKeyChar)

/-- The rest of a text after blanks, a comment and the end of the line. -/
def endLine? (s : List Char) : Option (List Char) :=
  let s := skipGap s
  let s := match s with
    | '#' :: s => s.dropWhile isPlain
    | s => s
  match s with
  | [] => some []
  | '\n' :: s => some s
  | '\r' :: '\n' :: s => some s
  | _ => none

def pair? (s : List Char) : Option ((String × String) × List Char) := do
  let (key, s) ← key? s
  match skipGap s with
  | '=' :: s =>
    let (value, s) ← value? (skipGap s)
    return ((String.ofList key, String.ofList value), s)
  | _ => none

/-- Reads the lines of a text, at most `fuel` of them. -/
def lines? : Nat → List Char → Option (List (String × String))
  | _, [] => some []
  | 0, _ => none
  | fuel + 1, s =>
    match skipGap s with
    | [] => some []
    | c :: s =>
      if c = '#' ∨ c = '\n' ∨ c = '\r' then do lines? fuel (← endLine? (c :: s))
      else do
        let (pair, s) ← pair? (c :: s)
        return pair :: (← lines? fuel (← endLine? s))

/-- The assignments of a text in order, if it holds nothing else. A byte order mark in front is
dropped. -/
def parse? (text : String) : Option (List (String × String)) :=
  let s := Text.Identifier.dropMark text.toList
  lines? s.length s

end RecordStore.Config.Assignment

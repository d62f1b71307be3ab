import RecordStore.Text.LetterCase.Table

/-! Upper and lower case of texts, character by character but for the sigma that ends a word. -/
namespace RecordStore.Text.LetterCase

def Run.covers (r : Run) (n : Nat) : Bool :=
  r.low ≤ n && n ≤ r.high && (n - r.low) % r.step == 0

/-- The counterpart of a character: one found in a run, a listed sequence, or itself. -/
def counterpart (runs : List Run) (sequences : List (Nat × List Nat)) (c : Char) : List Char :=
  match runs.find? (·.covers c.toNat) with
  | some r => [Char.ofNat (c.toNat + r.shift).toNat]
  | none =>
    match sequences.find? (·.1 == c.toNat) with
    | some (_, s) => s.map Char.ofNat
    | none => [c]

/-- The upper case of a character; ASCII is settled without the tables. -/
def upper (c : Char) : List Char :=
  if c.toNat < 0x80 then [c.toUpper] else counterpart upperRuns upperSequences c

/-- The lower case of a character on its own; ASCII is settled without the tables. -/
def lower (c : Char) : List Char :=
  if c.toNat < 0x80 then [c.toLower] else counterpart lowerRuns lowerSequences c

def toUpper (s : List Char) : List Char := s.flatMap upper

/-- Whether a cased letter comes next, characters that case ignores apart. -/
def meetsCased (s : List Char) : Bool :=
  match s.dropWhile caseIgnorable.contains with
  | c :: _ => cased.contains c
  | [] => false

/-- The lower case of `s`, with the characters before it given nearest first: a sigma that
follows a cased letter and precedes none takes its final form. -/
def toLowerAfter (before : List Char) : List Char → List Char
  | [] => []
  | c :: rest =>
    (if c = 'Σ' then [if meetsCased before && !meetsCased rest then 'ς' else 'σ'] else lower c) ++
      toLowerAfter (c :: before) rest

def toLower (s : List Char) : List Char := toLowerAfter [] s

/-- The text with its first character in upper case and the rest in lower case. -/
def capitalize : List Char → List Char
  | [] => []
  | c :: rest => upper c ++ toLower rest

@[simp] theorem toUpper_nil : toUpper [] = [] := rfl

@[simp] theorem toLower_nil : toLower [] = [] := rfl

@[simp] theorem capitalize_nil : capitalize [] = [] := rfl

example : toLower "ΟΔΟΣ".toList = "οδος".toList := by decide +kernel

example : toUpper "straße".toList = "STRASSE".toList := by decide +kernel

end RecordStore.Text.LetterCase

import RecordStore.Text.Grapheme
import RecordStore.Text.LetterCase

/-! The words of a name, and the conventions that join them again. -/
namespace RecordStore.Text.Words

/-- What a user-perceived character is for the borders of words. -/
inductive Kind
  | separator
  | upper
  | lower
  | digit
  | other
  deriving DecidableEq, Repr

/-- Underscore, hyphen and space separate, only ASCII digits count as digits, and a letter has a
case if its two cases differ and it is one of them. -/
def kind (g : List Char) : Kind :=
  if g = ['_'] ∨ g = ['-'] ∨ g = [' '] then .separator
  else if g.all Char.isDigit then .digit
  else
    let u := LetterCase.toUpper g
    let l := LetterCase.toLower g
    if u = l then .other else if g = u then .upper else if g = l then .lower else .other

/-- Whether a word ends between a character of the given kind and those that follow it. -/
def endsBefore : Kind → List Kind → Bool
  | .lower, .upper :: _ => true
  | .lower, .digit :: _ => true
  | .upper, .digit :: _ => true
  | .digit, .lower :: _ => true
  | .digit, .upper :: _ => true
  | .upper, .upper :: .lower :: _ => true
  | _, _ => false

/-- The words of the rest of a name, the first of which continues `current`. A separator is
dropped, and words may be empty. -/
def split (current : List Char) : List (List Char × Kind) → List (List Char)
  | [] => [current]
  | (g, k) :: rest =>
    if k = .separator then current :: split [] rest
    else if endsBefore k ((rest.take 2).map (·.2)) then (current ++ g) :: split [] rest
    else split (current ++ g) rest

def ofName (name : String) : List (List Char) :=
  if name.isEmpty then [] else
    split [] ((Grapheme.clusters name.toList).map fun g => (g, kind g))

def snake (name : String) : String :=
  String.ofList (List.intercalate ['_'] ((ofName name).map LetterCase.toLower))

def constant (name : String) : String :=
  String.ofList (List.intercalate ['_'] ((ofName name).map LetterCase.toUpper))

/-- The first word in lower case and the others capitalised, joined without a mark. -/
def lowerCamel (name : String) : String :=
  match ofName name with
  | [] => ""
  | first :: rest =>
    String.ofList (LetterCase.toLower first ++ rest.flatMap LetterCase.capitalize)

def upperCamel (name : String) : String :=
  String.ofList ((ofName name).flatMap LetterCase.capitalize)

example : snake "HTTPServer2Go" = "http_server_2_go" := by decide +kernel

example : lowerCamel "first_name" = "firstName" := by decide +kernel

end RecordStore.Text.Words

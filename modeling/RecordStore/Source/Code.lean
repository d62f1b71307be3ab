import RecordStore.Text.Identifier
import RecordStore.Text.Quoted

/-! Source text as pieces with one space between them. -/
namespace RecordStore.Source

/-- Pieces of source, in order. -/
abbrev Code := List String

namespace Code

def text (c : Code) : String := " ".intercalate c

/-- The pieces that a text with single spaces consists of. -/
def ofWords (s : String) : Code := s.splitOn " "

def paren (c : Code) : Code := ["(" ++ c.text ++ ")"]

def bracket (c : Code) : Code := ["[" ++ c.text ++ "]"]

def brace (c : Code) : Code :=
  [if c.isEmpty then "\x7b \x7d" else "\x7b " ++ c.text ++ " \x7d"]

def angle (c : Code) : Code := ["<"] ++ c ++ [">"]

def ofIdentifier (i : Text.Identifier) : Code := [i.render]

def ofText (s : String) : Code := [Text.Quoted.literal s]

def ofNat (n : Nat) : Code := [toString n]

def arguments (parts : List Code) : Code := paren (List.intercalate [","] parts)

def comment (line : String) : Code := ["#", "[doc = r\" " ++ line ++ "\"]"]

/-- The text of code that is empty. -/
@[simp] theorem text_nil : text [] = "" := rfl

end Code

end RecordStore.Source

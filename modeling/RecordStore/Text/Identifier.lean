import RecordStore.Text.Blank
import RecordStore.Text.Identifier.Table

/-! Identifiers of generated source, read from a text that may surround them with blanks and
comments. -/
namespace RecordStore.Text

/-- An identifier; a raw one is written after the mark `r#` and may be a reserved word. -/
structure Identifier where
  raw : Bool
  name : String
  deriving DecidableEq, Repr

namespace Identifier

def render (i : Identifier) : String := if i.raw then "r#" ++ i.name else i.name

/-- Whether the character may open an identifier; ASCII is settled without the tables. -/
def opens (c : Char) : Bool :=
  if c.toNat < 0x80 then c.isAlpha || c == '_' else opening.contains c

/-- Whether the character may stand inside an identifier. -/
def continues (c : Char) : Bool :=
  opens c || if c.toNat < 0x80 then c.isDigit else inner.contains c

/-- Words with a meaning of their own, which only a raw identifier may spell. -/
def reserved : List String := [
  "_", "abstract", "as", "async", "await", "become", "box", "break", "const", "continue", "crate",
  "do", "dyn", "else", "enum", "extern", "false", "final", "fn", "for", "if", "impl", "in", "let",
  "loop", "macro", "match", "mod", "move", "mut", "override", "priv", "pub", "ref", "return",
  "Self", "self", "static", "struct", "super", "trait", "true", "try", "type", "typeof", "unsafe",
  "unsized", "use", "virtual", "where", "while", "yield"]

/-- Words that not even a raw identifier may spell. -/
def neverRaw : List String := ["_", "super", "self", "Self", "crate"]

/-- Whether the character separates tokens; the two direction marks do so too. -/
def isGap (c : Char) : Bool := isBlank c || c == '\u200E' || c == '\u200F'

/-- The rest of a text after the comment that `depth` openings have begun, if all are closed. -/
def afterComment : Nat → List Char → Option (List Char)
  | 0, s => some s
  | depth + 1, '/' :: '*' :: rest => afterComment (depth + 2) rest
  | depth + 1, '*' :: '/' :: rest => afterComment depth rest
  | depth + 1, _ :: rest => afterComment (depth + 1) rest
  | _ + 1, [] => none

theorem length_afterComment {depth : Nat} {s r : List Char} (h : afterComment depth s = some r) :
    r.length ≤ s.length := by
  fun_induction afterComment depth s with
  | case1 => cases h; exact Nat.le_refl _
  | case2 _ _ ih => have := ih h; simp only [List.length_cons]; omega
  | case3 _ _ ih => have := ih h; simp only [List.length_cons]; omega
  | case4 _ _ _ _ _ ih => have := ih h; simp only [List.length_cons]; omega
  | case5 => cases h

/-- Whether the text after two slashes makes the line one of documentation. -/
def documentsLine : List Char → Bool
  | '/' :: '/' :: _ => false
  | '/' :: _ => true
  | '!' :: _ => true
  | _ => false

/-- Whether the text after a comment opening makes the comment one of documentation. -/
def documentsBlock : List Char → Bool
  | '*' :: '*' :: _ => false
  | '*' :: '/' :: _ => false
  | '*' :: _ => true
  | '!' :: _ => true
  | _ => false

/-- The rest of a text after blanks and comments. Documentation is no comment. -/
def skipGap (s : List Char) : List Char :=
  match s with
  | '/' :: '/' :: rest =>
    if documentsLine rest then s else skipGap (rest.dropWhile (· != '\n'))
  | '/' :: '*' :: rest =>
    if documentsBlock rest then s else
      match _h : afterComment 1 rest with
      | some r => skipGap r
      | none => s
  | c :: rest => if isGap c then skipGap rest else s
  | [] => []
termination_by s.length
decreasing_by
  · have := (List.dropWhile_suffix (fun c : Char => c != '\n') (l := rest)).length_le
    simp only [List.length_cons]; omega
  · have := length_afterComment _h
    simp only [List.length_cons]; omega
  · simp

/-- Reads one identifier or reserved word from the front of a text. -/
def scan (s : List Char) : Option (Identifier × List Char) :=
  let raw := s.take 2 == ['r', '#']
  match if raw then s.drop 2 else s with
  | c :: rest =>
    let word := String.ofList (c :: rest.takeWhile continues)
    if !opens c || (raw && neverRaw.contains word) then none
    else some (⟨raw, word⟩, rest.dropWhile continues)
  | [] => none

def dropMark : List Char → List Char
  | '\uFEFF' :: rest => rest
  | s => s

/-- The identifier that a text consists of, blanks and comments apart. -/
def parse? (s : String) : Option Identifier := do
  let (i, rest) ← scan (skipGap (dropMark s.toList))
  if !(skipGap rest).isEmpty || (!i.raw && reserved.contains i.name) then none else some i

end Identifier

end RecordStore.Text

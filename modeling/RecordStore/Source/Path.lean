import RecordStore.Source.Code

/-! Paths of names in generated source. -/
namespace RecordStore.Source

open Text (Identifier)

/-- Names separated by two colons, which may also stand in front. -/
structure Path where
  absolute : Bool
  names : List Identifier
  deriving DecidableEq, Repr

namespace Path

/-- Reserved words that may stand for a name of a path. -/
def allowed : List String := ["super", "self", "Self", "crate", "try"]

def name? (s : List Char) : Option (Identifier × List Char) := do
  let (i, rest) ← Identifier.scan s
  if !i.raw && Identifier.reserved.contains i.name && !allowed.contains i.name then none
  else return (i, Identifier.skipGap rest)

/-- Reads names, at most `fuel` of them after the first. -/
def names? : Nat → List Char → Option (List Identifier)
  | 0, _ => none
  | fuel + 1, s => do
    let (i, rest) ← name? s
    match rest with
    | [] => return [i]
    | ':' :: ':' :: rest => return i :: (← names? fuel (Identifier.skipGap rest))
    | _ => none

/-- Reads a path, with blanks and comments between its parts. -/
def parse? (s : String) : Option Path :=
  match Identifier.skipGap (Identifier.dropMark s.toList) with
  | ':' :: ':' :: rest => (names? rest.length (Identifier.skipGap rest)).map (⟨true, ·⟩)
  | rest => (names? rest.length rest).map (⟨false, ·⟩)

def code (p : Path) : Code :=
  (if p.absolute then ["::"] else []) ++
    List.intercalate ["::"] (p.names.map Code.ofIdentifier)

def member (p : Path) (name : String) : Code := p.code ++ ["::", name]

example : (parse? " :: a ::r#type").map (·.code.text) = some ":: a :: r#type" := by decide +kernel

end Path

end RecordStore.Source

import RecordStore.Text.Grapheme.Table

/-! User-perceived characters: the clusters of characters that a reader takes for one. -/
namespace RecordStore.Text.Grapheme

/-- What a character does at the border of two clusters. -/
inductive Role
  | other
  | carriageReturn
  | lineFeed
  | control
  | extend
  | joiner
  | regional
  | prepend
  | spacing
  | leading
  | vowel
  | trailing
  | openSyllable
  | closedSyllable
  deriving DecidableEq, Repr

/-- The part that a code point plays in writing Korean syllables, if any. -/
def syllableRole? (n : Nat) : Option Role :=
  if (0x1100 ≤ n ∧ n ≤ 0x115F) ∨ (0xA960 ≤ n ∧ n ≤ 0xA97C) then some .leading
  else if (0x1160 ≤ n ∧ n ≤ 0x11A7) ∨ (0xD7B0 ≤ n ∧ n ≤ 0xD7C6) ∨ n = 0x16D63 ∨
      (0x16D67 ≤ n ∧ n ≤ 0x16D6A) then some .vowel
  else if (0x11A8 ≤ n ∧ n ≤ 0x11FF) ∨ (0xD7CB ≤ n ∧ n ≤ 0xD7FB) then some .trailing
  else if 0xAC00 ≤ n ∧ n ≤ 0xD7A3 then
    some (if (n - 0xAC00) % 28 = 0 then .openSyllable else .closedSyllable)
  else none

/-- The role of a character; ASCII is settled without the tables. -/
def role (c : Char) : Role :=
  if c = '\r' then .carriageReturn
  else if c = '\n' then .lineFeed
  else if c.toNat < 0x80 then if c.toNat < 0x20 ∨ c.toNat = 0x7F then .control else .other
  else if c.toNat = 0x200D then .joiner
  else if 0x1F1E6 ≤ c.toNat ∧ c.toNat ≤ 0x1F1FF then .regional
  else
    match syllableRole? c.toNat with
    | some r => r
    | none =>
      if extend.contains c then .extend
      else if spacingMark.contains c then .spacing
      else if control.contains c then .control
      else if prepend.contains c then .prepend
      else .other

/-- Whether the character is a pictograph; none is in ASCII. -/
def isPictograph (c : Char) : Bool := 0x80 ≤ c.toNat && pictograph.contains c

/-- Whether the character is a consonant that forms conjuncts; none is in ASCII. -/
def isConsonant (c : Char) : Bool := 0x80 ≤ c.toNat && consonant.contains c

/-- What the end of a cluster remembers of the characters before it. -/
structure Ending where
  last : Role
  /-- An odd number of regional indicators ends here. -/
  oddRegional : Bool
  /-- A pictograph with its modifiers ends here. -/
  picture : Bool
  /-- A pictograph with its modifiers and a joiner ends here. -/
  joinedPicture : Bool
  /-- A consonant with its marks ends here. -/
  conjunct : Bool
  /-- One of those marks is a linker. -/
  linked : Bool
  deriving DecidableEq, Repr

/-- The ending after one more character, from the ending before it. -/
def Ending.extendBy (previous : Option Ending) (c : Char) : Ending :=
  let r := role c
  let mark := r = .extend ∨ r = .joiner
  let isLinker := r = .extend && linker.contains c
  let carries := mark ∧ c.toNat ≠ 0x200C
  { last := r
    oddRegional := r = .regional && !(previous.any (·.oddRegional))
    picture := isPictograph c || (r = .extend && previous.any (·.picture))
    joinedPicture := r = .joiner && previous.any (·.picture)
    conjunct := isConsonant c || (carries && previous.any (·.conjunct))
    linked := carries && previous.any fun e => e.conjunct && (isLinker || e.linked) }

/-- Whether a character belongs to the cluster with the given ending. -/
def Ending.accepts (e : Ending) (c : Char) : Bool :=
  match e.last, role c with
  | .carriageReturn, .lineFeed => true
  | .control, _ | .carriageReturn, _ | .lineFeed, _ => false
  | _, .control | _, .carriageReturn | _, .lineFeed => false
  | .leading, .leading | .leading, .vowel | .leading, .openSyllable
  | .leading, .closedSyllable => true
  | .openSyllable, .vowel | .openSyllable, .trailing | .vowel, .vowel | .vowel, .trailing => true
  | .closedSyllable, .trailing | .trailing, .trailing => true
  | _, .extend | _, .joiner | _, .spacing => true
  | .prepend, _ => true
  | _, r =>
    (isConsonant c && e.linked) || (isPictograph c && e.joinedPicture) ||
      (r = .regional && e.oddRegional)

/-- The clusters of `rest`, the first of which continues `current`, held in reverse. -/
def clustersFrom (current : List Char) (e : Ending) : List Char → List (List Char)
  | [] => [current.reverse]
  | c :: rest =>
    if e.accepts c then clustersFrom (c :: current) (Ending.extendBy (some e) c) rest
    else current.reverse :: clustersFrom [c] (Ending.extendBy none c) rest

def clusters : List Char → List (List Char)
  | [] => []
  | c :: rest => clustersFrom [c] (Ending.extendBy none c) rest

theorem flatten_clustersFrom (current : List Char) (e : Ending) (s : List Char) :
    (clustersFrom current e s).flatten = current.reverse ++ s := by
  induction s generalizing current e with
  | nil => simp [clustersFrom]
  | cons c rest ih => unfold clustersFrom; split <;> simp [ih]

/-- Clusters lose and add nothing. -/
theorem flatten_clusters (s : List Char) : (clusters s).flatten = s := by
  cases s with
  | nil => rfl
  | cons c rest => simp [clusters, flatten_clustersFrom]

end RecordStore.Text.Grapheme

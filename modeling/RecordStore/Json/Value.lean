import RecordStore.Json.Lexeme

/-! Texts of the format as trees. A fault of the text is a part of its tree, so that a reader that
walks the tree in order meets mismatches and faults in the order of the text. -/
namespace RecordStore.Json

mutual

/-- What a text holds, as far as it follows the format. -/
inductive Value
  | null
  | boolean (value : Bool)
  | number (numeral : Numeral)
  /-- A string, or why its escapes do not make one; a reader that skips it does not mind. -/
  | string (text : Except Error String)
  /-- The items, and the fault that stands instead of the end. -/
  | array (items : List Value) (ending : Option Error)
  /-- The members, and the fault that stands instead of the end. -/
  | object (members : List Member) (ending : Option Error)
  /-- No value: the faults for a reader that wants one, and for one that skips it. -/
  | broken (read skipped : Error)

/-- One member of an object. -/
inductive Member
  | pair (key : Except Error String) (value : Value)
  /-- A key without an end: the faults for a reader that wants it, and for one that skips it. -/
  | brokenKey (read skipped : Error)
  /-- A value in the place of a key. -/
  | stray (value : Value)

end

instance : Inhabited Value := ⟨.null⟩

/-- Reads a string after its opening quote; a text without a rest ends in a fault. -/
def stringToken (s : List Char) :
    Except (Error × Error) (Except Error String × List Char) :=
  match stringBody true s with
  | .ok (cs, rest) => .ok (.ok (String.ofList cs), rest)
  | .error read =>
    match stringBody false s with
    | .ok (_, rest) => .ok (.error read, rest)
    | .error skipped => .error (read, skipped)

namespace Value

/-- A fault that is the same for every reader. -/
def fault (e : Error) : Value := broken e e

/-- The value that a word stands for, if the text goes on with the rest of the word. -/
def ofWord (v : Value) (rest s : List Char) : Value × Option (List Char) :=
  match word rest s with
  | .ok s => (v, some s)
  | .error e => (fault e, none)

def ofNumeral (negative : Bool) (s : List Char) : Value × Option (List Char) :=
  match numeral .incomplete negative s with
  | .ok (n, rest) => (number n, some rest)
  | .error read =>
    match numeral .malformed negative s with
    | .ok (n, rest) => (number n, some rest)
    | .error skipped => (broken read skipped, none)

def ofString (s : List Char) : Value × Option (List Char) :=
  match stringToken s with
  | .ok (text, rest) => (string text, some rest)
  | .error (read, skipped) => (broken read skipped, none)

mutual

/-- Reads a value from the front of a text, in at most `fuel` steps inwards; the rest is missing
where the text has a fault. -/
def read : Nat → List Char → Value × Option (List Char)
  | 0, _ => (fault .incomplete, none)
  | fuel + 1, s =>
    match skipSpace s with
    | [] => (fault .incomplete, none)
    | 'n' :: s => ofWord null ['u', 'l', 'l'] s
    | 't' :: s => ofWord (boolean true) ['r', 'u', 'e'] s
    | 'f' :: s => ofWord (boolean false) ['a', 'l', 's', 'e'] s
    | '"' :: s => ofString s
    | '-' :: s => ofNumeral true s
    | '[' :: s =>
      match skipSpace s with
      | [] => (array [] (some .incomplete), none)
      | ']' :: s => (array [] none, some s)
      | s =>
        let (items, ending, rest) := readItems fuel s
        (array items ending, rest)
    | '{' :: s =>
      match skipSpace s with
      | [] => (object [] (some .incomplete), none)
      | '}' :: s => (object [] none, some s)
      | s =>
        let (members, ending, rest) := readMembers fuel s
        (object members ending, rest)
    | c :: s => if c.isDigit then ofNumeral false (c :: s) else (fault .malformed, none)

/-- Reads one or more items and the end of the array. -/
def readItems : Nat → List Char → List Value × Option Error × Option (List Char)
  | 0, _ => ([], some .incomplete, none)
  | fuel + 1, s =>
    match read fuel s with
    | (v, none) => ([v], none, none)
    | (v, some s) =>
      match skipSpace s with
      | ']' :: s => ([v], none, some s)
      | ',' :: s =>
        let (items, ending, rest) := readItems fuel s
        (v :: items, ending, rest)
      | [] => ([v], some .incomplete, none)
      | _ => ([v], some .malformed, none)

/-- Reads one or more members and the end of the object. -/
def readMembers : Nat → List Char → List Member × Option Error × Option (List Char)
  | 0, _ => ([], some .incomplete, none)
  | fuel + 1, s =>
    match skipSpace s with
    | '"' :: s =>
      match stringToken s with
      | .error (read, skipped) => ([.brokenKey read skipped], none, none)
      | .ok (key, s) =>
        match skipSpace s with
        | ':' :: s =>
          match read fuel s with
          | (v, none) => ([.pair key v], none, none)
          | (v, some s) =>
            match skipSpace s with
            | '}' :: s => ([.pair key v], none, some s)
            | ',' :: s =>
              let (members, ending, rest) := readMembers fuel s
              (.pair key v :: members, ending, rest)
            | [] => ([.pair key v], some .incomplete, none)
            | _ => ([.pair key v], some .malformed, none)
        | [] => ([.pair key (fault .incomplete)], none, none)
        | _ => ([.pair key (fault .malformed)], none, none)
    | [] => ([.brokenKey .incomplete .incomplete], none, none)
    | s => ([.stray (read fuel s).1], none, none)

end

end Value

/-- A whole text. -/
structure Document where
  root : Value
  /-- Something follows the value. -/
  trailing : Bool

def Document.ofText (text : String) : Document :=
  let s := text.toList
  let (root, rest) := Value.read (2 * s.length + 2) s
  ⟨root, !(rest.all fun s => (skipSpace s).isEmpty)⟩

end RecordStore.Json

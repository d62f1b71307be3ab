import RecordStore.Json.Value

/-! Typed readers of trees, which report the first fault or mismatch in the order of the text. -/
namespace RecordStore.Json

/-- The outcome of reading. -/
abbrev Outcome := Except Error

namespace Value

def found : Value → Outcome Found
  | null => .ok .null
  | boolean b => .ok (.boolean b)
  | number n => match n.value? with
    | some f => .ok f
    | none => .error .malformed
  | string text => text.map .string
  | array .. => .ok .sequence
  | object .. => .ok .map
  | broken read _ => .error read

/-- The fault of a value that is not of the wanted shape. -/
def mismatch {α : Type} (v : Value) (wanted : String) : Outcome α := do
  .error (.mismatch (.invalidType (← v.found) wanted))

/-- The fault instead of an end, if there is one. -/
def endingOutcome : Option Error → Outcome Unit
  | none => .ok ()
  | some e => .error e

mutual

/-- Passes over a value, of which only the form counts. -/
def skip : Value → Outcome Unit
  | null | boolean _ | number _ | string _ => .ok ()
  | array items ending => do
    skipItems items
    endingOutcome ending
  | object members ending => do
    skipMembers members
    endingOutcome ending
  | broken _ skipped => .error skipped

def skipItems : List Value → Outcome Unit
  | [] => .ok ()
  | v :: rest => do
    skip v
    skipItems rest

def skipMembers : List Member → Outcome Unit
  | [] => .ok ()
  | .pair _ v :: rest => do
    skip v
    skipMembers rest
  | .brokenKey _ skipped :: _ => .error skipped
  | .stray _ :: _ => .error .malformed

end

def text : Value → Outcome String
  | string text => text
  | v => v.mismatch "a string"

def parsedText {α : Type} (parse : String → Except String α) (v : Value) : Outcome α := do
  match parse (← v.text) with
  | .ok a => .ok a
  | .error message => .error (.mismatch (.refused message))

def word32 (v : Value) : Outcome UInt32 := do
  match ← v.found with
  | .integer n =>
    if 0 ≤ n ∧ n < UInt32.size then .ok (UInt32.ofNat n.toNat)
    else .error (.mismatch (.invalidValue (.integer n) "u32"))
  | f => .error (.mismatch (.invalidType f "u32"))

def optional {α : Type} (read : Value → Outcome α) : Value → Outcome (Option α)
  | null => .ok none
  | v => do return some (← read v)

def list {α : Type} (read : Value → Outcome α) : Value → Outcome (List α)
  | array items ending => do
    let xs ← items.mapM read
    endingOutcome ending
    return xs
  | v => v.mismatch "a sequence"

def chosen {α : Type} (choices : List (String × α)) (name : String) : Outcome α :=
  match choices.lookup name with
  | some a => .ok a
  | none => .error (.mismatch (.unknownVariant name (choices.map (·.1))))

/-- Reads one of a set of names: a string, or an object whose only member has the name as its key
and null as its value. -/
def choice {α : Type} (choices : List (String × α)) : Value → Outcome α
  | string text => do chosen choices (← text)
  | object (.pair key v :: rest) ending => do
    let a ← chosen choices (← key)
    match v with
    | null => pure ()
    | v => v.mismatch "unit"
    if !rest.isEmpty then .error .malformed
    endingOutcome ending
    return a
  | object (.brokenKey read _ :: _) _ => .error read
  | object (.stray v :: _) _ => v.mismatch "variant identifier"
  | object [] ending => .error (ending.getD .malformed)
  | broken read _ => .error read
  | _ => .error .malformed

end Value

/-- A field of a record that is gathered in a draft of type `δ`. -/
structure Field (δ : Type) where
  name : String
  /-- Whether a record without the field is refused. -/
  required : Bool
  /-- Whether the draft has the field. -/
  present : δ → Bool
  /-- Reads the value of the field into the draft. -/
  read : Value → δ → Outcome δ

/-- How a record is read: field by field into a draft. -/
structure Shape (δ : Type) where
  name : String
  fields : List (Field δ)

namespace Shape

variable {δ : Type}

/-- Reads one member into a draft: a known field once, and unknown ones not at all. -/
def readMember (shape : Shape δ) (draft : δ) : Member → Outcome δ
  | .pair key v => do
    match shape.fields.find? (·.name == (← key)) with
    | some field =>
      if field.present draft then .error (.mismatch (.duplicateField field.name))
      else field.read v draft
    | none =>
      v.skip
      return draft
  | .brokenKey read _ => .error read
  | .stray _ => .error .malformed

def complete (shape : Shape δ) (draft : δ) : Outcome δ :=
  match shape.fields.find? fun f => f.required && !f.present draft with
  | some f => .error (.mismatch (.missingField f.name))
  | none => .ok draft

/-- Reads fields by place, the first of which has the given index. -/
def readPlaces (shape : Shape δ) (index : Nat) (ending : Option Error) :
    List (Field δ) → List Value → δ → Outcome δ
  | [], [], draft => do
    Value.endingOutcome ending
    return draft
  | [], _ :: _, _ => .error .malformed
  | field :: fields, v :: items, draft => do
    shape.readPlaces (index + 1) ending fields items (← field.read v draft)
  | field :: fields, [], draft => do
    Value.endingOutcome ending
    if field.required then
      .error (.mismatch (.invalidLength index
        s!"struct {shape.name} with {shape.fields.length} elements"))
    else shape.readPlaces (index + 1) ending fields [] draft

/-- Reads a record, an object of its fields or an array of them in order. -/
def read (shape : Shape δ) (start : δ) : Value → Outcome δ
  | .object members ending => do
    let draft ← members.foldlM shape.readMember start
    Value.endingOutcome ending
    shape.complete draft
  | .array items ending => shape.readPlaces 0 ending shape.fields items start
  | v => v.mismatch s!"struct {shape.name}"

end Shape

def readText {α : Type} (read : Value → Outcome α) (text : String) : Outcome α := do
  let document := Document.ofText text
  let a ← read document.root
  if document.trailing then .error .malformed
  return a

end RecordStore.Json

import RecordStore.Number.Shortest
import RecordStore.Text.Quoted

/-! Why a text cannot be read as a value of the wanted shape. -/
namespace RecordStore.Json

/-- What stands in a text, told apart as far as a message names it. -/
inductive Found
  | null
  | boolean (value : Bool)
  | integer (value : Int)
  | float (value : Binary64)
  | string (value : String)
  | sequence
  | map
  deriving DecidableEq, Repr

def Found.render : Found → String
  | null => "null"
  | boolean value => s!"boolean `{value}`"
  | integer value => s!"integer `{value}`"
  | float value => s!"floating point `{Shortest.Layout.signed.render value}`"
  | string value => "string " ++ Text.Quoted.display value
  | sequence => "sequence"
  | map => "map"

/-- How a value differs from the wanted shape. -/
inductive Mismatch
  | missingField (name : String)
  | duplicateField (name : String)
  | unknownVariant (name : String) (known : List String)
  | invalidType (found : Found) (wanted : String)
  | invalidValue (found : Found) (wanted : String)
  | invalidLength (length : Nat) (wanted : String)
  | refused (message : String)
  deriving DecidableEq, Repr

/-- A choice of names: two joined by `or`, more in a list. -/
def choice (names : List String) : String :=
  match names.map fun n => s!"`{n}`" with
  | [a] => a
  | [a, b] => s!"{a} or {b}"
  | many => "one of " ++ ", ".intercalate many

def Mismatch.message : Mismatch → String
  | missingField name => s!"missing field `{name}`"
  | duplicateField name => s!"duplicate field `{name}`"
  | unknownVariant name known => s!"unknown variant `{name}`, expected {choice known}"
  | invalidType found wanted => s!"invalid type: {found.render}, expected {wanted}"
  | invalidValue found wanted => s!"invalid value: {found.render}, expected {wanted}"
  | invalidLength length wanted => s!"invalid length {length}, expected {wanted}"
  | refused message => message

/-- The first fault of a text. -/
inductive Error
  /-- The text ends inside a value. -/
  | incomplete
  /-- The text is not of the format. -/
  | malformed
  /-- The value is not of the wanted shape. -/
  | mismatch (cause : Mismatch)
  deriving DecidableEq, Repr

end RecordStore.Json

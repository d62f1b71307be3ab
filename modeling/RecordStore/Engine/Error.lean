import RecordStore.Buffer.Error
import RecordStore.PropertyType
import RecordStore.Query.Condition

/-! What goes wrong in the storage engine. -/
namespace RecordStore

/-- Why the engine refuses a call. -/
inductive EngineError
  | poisoned
  | queriesPoisoned
  | handlesExhausted
  | alreadyOpen
  | notOpen
  | unknownEntity (id : UInt32)
  | unknownQuery (handle : UInt64)
  | queryOfEntity (expected given : UInt32)
  | unmatchedParameter (propertyId : UInt32) (value : Parameter)
  | readOnly (entity : String)
  | cursorOfEntity (handle : UInt64) (expected : UInt32) (entity : String)
  | unreadableRecord (id : UInt64) (cause : Buffer.ReadError)
  | unreadableProperty (name : String) (cause : Buffer.ReadError)
  | idZero
  | conditionOfEntity (id : UInt32) (entity : String)
  | unknownProperty (id : UInt32) (entity : String)
  | conditionType (property : String) (type : PropertyType)
  /-- An error that is not the engine's own. -/
  | other (code : Int) (text : String)
  deriving DecidableEq

namespace EngineError

def illegalState : Int := 10001

def illegalArgument : Int := 10002

def notFound : Int := 404

/-- The number that stands for the class of the error. -/
def code : EngineError → Int
  | poisoned | queriesPoisoned | handlesExhausted | alreadyOpen | notOpen | unknownQuery _
  | readOnly _ | unreadableRecord .. | unreadableProperty .. => illegalState
  | queryOfEntity .. | unmatchedParameter .. | cursorOfEntity .. | idZero | conditionOfEntity ..
  | unknownProperty .. | conditionType .. => illegalArgument
  | unknownEntity _ => notFound
  | other code _ => code

def text : EngineError → String
  | poisoned => "store state lock poisoned"
  | queriesPoisoned => "query table lock poisoned"
  | handlesExhausted => "query handles exhausted"
  | alreadyOpen => "store is already open"
  | notOpen => "store is not open"
  | unknownEntity id => s!"entity {id.toNat} is not in the model"
  | unknownQuery handle => s!"query {handle.toNat} is not open"
  | queryOfEntity expected given => s!"query is for entity {expected.toNat}, not {given.toNat}"
  | unmatchedParameter propertyId value =>
    s!"no condition on property {propertyId.toNat} accepts {value.debugText}"
  | readOnly entity => s!"cursor for '{entity}' is read-only"
  | cursorOfEntity handle expected entity =>
    s!"query {handle.toNat} is for entity {expected.toNat}, cursor is for '{entity}'"
  | unreadableRecord id cause => s!"record {id.toNat} is unreadable: {cause.message}"
  | unreadableProperty name cause => s!"property '{name}' is unreadable: {cause.message}"
  | idZero => "cannot put with id 0"
  | conditionOfEntity id entity =>
    s!"condition property belongs to entity {id.toNat}, query is for '{entity}'"
  | unknownProperty id entity => s!"property {id.toNat} is not part of entity '{entity}'"
  | conditionType property type =>
    s!"condition on '{property}' does not apply to a {type.name} property"
  | other _ text => text

def message (e : EngineError) : String := s!"native error {e.code}: {e.text}"

end EngineError

end RecordStore

import RecordStore.Bytes
import RecordStore.Store.Error

/-! Values handed over as the parameter of a query. -/
namespace RecordStore

/-- Values of one type, as single values or as the members of a list. -/
inductive Arguments
  | strings (values : List String)
  | stringsIn (values : List String)
  | int64s (values : List Int64)
  | int64sIn (values : List Int64)
  | int32sIn (values : List Int32)
  | float64s (values : List Binary64)
  | byteVectors (values : List ByteArray)
  deriving DecidableEq

namespace Arguments

def count : Arguments → Nat
  | strings vs | stringsIn vs => vs.length
  | int64s vs | int64sIn vs => vs.length
  | int32sIn vs => vs.length
  | float64s vs => vs.length
  | byteVectors vs => vs.length

/-- Most values that make a parameter: two make a range where ranges exist, and lists have no
bound. -/
def most : Arguments → Option Nat
  | strings _ | byteVectors _ => some 1
  | int64s _ | float64s _ => some 2
  | stringsIn _ | int64sIn _ | int32sIn _ => none

/-- The parameter that as many values make as `most` allows. -/
def value : Arguments → Parameter
  | strings vs => .string (vs.headD "")
  | stringsIn vs => .stringIn vs
  | int64s [a, b] => .intPair a b
  | int64s vs => .int (vs.headD 0)
  | int64sIn vs => .int64In vs
  | int32sIn vs => .int32In vs
  | float64s [a, b] => .doublePair a b
  | float64s vs => .double (vs.headD ⟨0⟩)
  | byteVectors vs => .bytes (vs.headD .empty)

def parameter (a : Arguments) : Except ArityError Parameter := do
  ArityError.check a.count a.most
  return a.value

end Arguments

end RecordStore

import RecordStore.Bytes
import RecordStore.Number.Shortest
import RecordStore.Text.Quoted

/-! Conditions on properties, and the values that replace theirs. -/
namespace RecordStore

/-- Names a property of an entity. -/
structure PropertyKey where
  entityId : UInt32
  propertyId : UInt32
  deriving DecidableEq, Repr, Inhabited

/-- A comparison of a stored value. Ranges include both ends. -/
inductive Test
  | stringEquals (value : String)
  | stringIn (values : List String)
  | intEquals (value : Int64)
  | intGreater (value : Int64)
  | intLess (value : Int64)
  | intBetween (low high : Int64)
  | int64In (values : List Int64)
  | int32In (values : List Int32)
  | doubleGreater (value : Binary64)
  | doubleLess (value : Binary64)
  | doubleBetween (low high : Binary64)
  | bytesEquals (value : ByteArray)
  deriving DecidableEq

/-- A test of a property. -/
structure Condition where
  property : PropertyKey
  test : Test
  deriving DecidableEq

/-- A value for a condition of a query. -/
inductive Parameter
  | string (value : String)
  | stringIn (values : List String)
  | int (value : Int64)
  | intPair (low high : Int64)
  | int64In (values : List Int64)
  | int32In (values : List Int32)
  | double (value : Binary64)
  | doublePair (low high : Binary64)
  | bytes (value : ByteArray)
  deriving DecidableEq

def listText {α : Type} (render : α → String) (items : List α) : String :=
  "[" ++ ", ".intercalate (items.map render) ++ "]"

def int64Text (n : Int64) : String := toString n.toInt

def int32Text (n : Int32) : String := toString n.toInt

def byteText (n : UInt8) : String := toString n.toNat

namespace Parameter

def debugText : Parameter → String
  | string v => s!"String({Text.Quoted.display v})"
  | stringIn vs => s!"StringIn({listText Text.Quoted.display vs})"
  | int v => s!"Int({v.toInt})"
  | intPair a b => s!"IntPair({a.toInt}, {b.toInt})"
  | int64In vs => s!"Int64In({listText int64Text vs})"
  | int32In vs => s!"Int32In({listText int32Text vs})"
  | double v => s!"Double({Shortest.Layout.pointed.render v})"
  | doublePair a b =>
    s!"DoublePair({Shortest.Layout.pointed.render a}, {Shortest.Layout.pointed.render b})"
  | bytes v => s!"Bytes({listText byteText v.data.toList})"

end Parameter

namespace Test

/-- The test with its values replaced, if the parameter has the shape of the test. -/
def rebind? : Test → Parameter → Option Test
  | stringEquals _, .string v => some (stringEquals v)
  | stringIn _, .stringIn vs => some (stringIn vs)
  | intEquals _, .int v => some (intEquals v)
  | intGreater _, .int v => some (intGreater v)
  | intLess _, .int v => some (intLess v)
  | intBetween _ _, .intPair a b => some (intBetween a b)
  | int64In _, .int64In vs => some (int64In vs)
  | int32In _, .int32In vs => some (int32In vs)
  | doubleGreater _, .double v => some (doubleGreater v)
  | doubleLess _, .double v => some (doubleLess v)
  | doubleBetween _ _, .doublePair a b => some (doubleBetween a b)
  | bytesEquals _, .bytes v => some (bytesEquals v)
  | _, _ => none

/-- The test as shown after the name of its property. -/
def render : Test → String
  | stringEquals v => "== " ++ Text.Quoted.display v
  | stringIn vs => "in " ++ listText Text.Quoted.display vs
  | intEquals v => s!"== {v.toInt}"
  | intGreater v => s!"> {v.toInt}"
  | intLess v => s!"< {v.toInt}"
  | intBetween a b => s!"between {a.toInt} and {b.toInt}"
  | int64In vs => "in " ++ listText int64Text vs
  | int32In vs => "in " ++ listText int32Text vs
  | doubleGreater v => "> " ++ Shortest.Layout.plain.render v
  | doubleLess v => "< " ++ Shortest.Layout.plain.render v
  | doubleBetween a b =>
    s!"between {Shortest.Layout.plain.render a} and {Shortest.Layout.plain.render b}"
  | bytesEquals v => s!"== byte[{v.size}]"

end Test

namespace Condition

/-- Replaces the values of the first condition on a property that the parameter fits. -/
def rebindFirst? (propertyId : UInt32) (v : Parameter) : List Condition → Option (List Condition)
  | [] => none
  | c :: rest =>
    match if c.property.propertyId = propertyId then c.test.rebind? v else none with
    | some test => some ({ c with test := test } :: rest)
    | none => (rebindFirst? propertyId v rest).map (c :: ·)

end Condition

end RecordStore

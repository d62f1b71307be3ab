import RecordStore.Buffer.Table
import RecordStore.Engine.Error
import RecordStore.Model.Basic

/-! Conditions checked against a model and evaluated on stored rows. -/
namespace RecordStore

open Buffer

/-- The outcome of a call on the engine. -/
abbrev EngineAttempt := Attempt EngineError

namespace PropertyType

/-- Whether values of the type are compared as integers. -/
def isInteger : PropertyType → Bool
  | bool | byte | short | char | int | long | date | relation => true
  | _ => false

end PropertyType

namespace Test

/-- Whether the test applies to properties of a type. -/
def applies (type : PropertyType) : Test → Bool
  | stringEquals _ | stringIn _ => type == .string
  | intEquals _ | intGreater _ | intLess _ | intBetween .. | int64In _ | int32In _ =>
    type.isInteger
  | doubleGreater _ | doubleLess _ | doubleBetween .. => type == .float || type == .double
  | bytesEquals _ => type == .byteVector

end Test

namespace ModelProperty

/-- The stored integer, as wide as the type says and with the sign that the flags say. -/
def readInt (p : ModelProperty) (t : Table) (offset : UInt16) : Except ReadError Int :=
  match p.type with
  | .bool => return if ← t.get offset false then 1 else 0
  | .byte =>
    if p.isUnsigned then return (← t.get offset (0 : UInt8)).toNat
    else return (← t.get offset (0 : Int8)).toInt
  | .short =>
    if p.isUnsigned then return (← t.get offset (0 : UInt16)).toNat
    else return (← t.get offset (0 : Int16)).toInt
  | .char => return (← t.get offset (0 : UInt32)).toNat
  | .int =>
    if p.isUnsigned then return (← t.get offset (0 : UInt32)).toNat
    else return (← t.get offset (0 : Int32)).toInt
  | .long =>
    if p.isUnsigned then return (← t.get offset (0 : UInt64)).toNat
    else return (← t.get offset (0 : Int64)).toInt
  | _ => return (← t.get offset (0 : Int64)).toInt

/-- The stored floating point number on the common scale of both formats; a NaN has no place
there. -/
def readUnits (p : ModelProperty) (t : Table) (offset : UInt16) :
    Except ReadError (Option Int) := do
  if p.type = .float then return (← t.get offset (⟨0⟩ : Binary32)).units?
  else return (← t.get offset (⟨0⟩ : Binary64)).units?

def passes (p : ModelProperty) (t : Table) (offset : UInt16) : Test → Except ReadError Bool
  | .stringEquals v => return (← t.string offset) == v
  | .stringIn vs => return vs.contains (← t.string offset)
  | .intEquals v => return (← p.readInt t offset) == v.toInt
  | .intGreater v => return v.toInt < (← p.readInt t offset)
  | .intLess v => return (← p.readInt t offset) < v.toInt
  | .intBetween low high => do
    let n ← p.readInt t offset
    return low.toInt ≤ n && n ≤ high.toInt
  | .int64In vs => do
    let n ← p.readInt t offset
    return vs.any (·.toInt == n)
  | .int32In vs => do
    let n ← p.readInt t offset
    return vs.any (·.toInt == n)
  | .doubleGreater v => return compareUnits (· < ·) v.units? (← p.readUnits t offset)
  | .doubleLess v => return compareUnits (· < ·) (← p.readUnits t offset) v.units?
  | .doubleBetween low high => do
    let x ← p.readUnits t offset
    return compareUnits (· ≤ ·) low.units? x && compareUnits (· ≤ ·) x high.units?
  | .bytesEquals v => return (← t.byteVector offset) == v

end ModelProperty

namespace ModelEntity

/-- The property that a condition names, and where directories describe it. -/
def target (e : ModelEntity) (c : Condition) : EngineAttempt (ModelProperty × UInt16) := do
  let key := c.property
  if key.entityId ≠ e.id then throw (.error (.conditionOfEntity key.entityId e.name))
  match e.property? key.propertyId, ← .ofArithmetic (e.slotOffset? key.propertyId) with
  | some p, some offset => return (p, offset)
  | _, _ => throw (.error (.unknownProperty key.propertyId e.name))

def accept (e : ModelEntity) (c : Condition) : EngineAttempt Unit := do
  let (p, _) ← e.target c
  if c.test.applies p.type then return ()
  else throw (.error (.conditionType p.name p.type))

def satisfies (e : ModelEntity) (t : Table) (c : Condition) : EngineAttempt Bool := do
  let (p, offset) ← e.target c
  .ofExcept ((p.passes t offset c.test).mapError (.unreadableProperty p.name))

/-- Whether a row satisfies all conditions, up to the first that it does not. -/
def satisfiesAll (e : ModelEntity) (t : Table) : List Condition → EngineAttempt Bool
  | [] => .ok true
  | c :: rest => do
    if ← e.satisfies t c then e.satisfiesAll t rest else return false

def describe (e : ModelEntity) (conditions : List Condition) : String :=
  let shown (c : Condition) : String :=
    let name := match e.property? c.property.propertyId with
      | some p => p.name
      | none => "?"
    name ++ " " ++ c.test.render
  e.name ++ " " ++
    if conditions.isEmpty then "(all)" else "where " ++ " AND ".intercalate (conditions.map shown)

end ModelEntity

end RecordStore

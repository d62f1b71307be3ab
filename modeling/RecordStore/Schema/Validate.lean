import RecordStore.Schema.Basic
import RecordStore.Schema.ErrorTree
import Std.Data.TreeMap
import Std.Data.TreeSet

/-! Checks of a schema, which report every problem at once. -/
namespace RecordStore

/-- Longest name of an entity or property, in bytes. -/
def maxNameLength : Nat := 64

/-- Most properties whose places in a table directory stay within 16 bits. -/
def maxProperties : Nat := 32766

/-- A problem of a schema. -/
inductive Issue
  | lastPropertyIdUnset
  | tooManyProperties (count : Nat)
  | propertiesExceedSlots (count : Nat) (slots : UInt32)
  | propertyIdInvalid (name : String) (id : IdUid)
  | propertyIdAboveLast (name : String) (id last : UInt32)
  | propertyIdRepeated (id : UInt32) (first second : String)
  | propertyUidRepeated (uid : UInt64) (first second : String)
  | identifierMissing
  | identifierType (name : String) (type : SemanticType)
  | identifierRepeated (names : List String)
  | propertyNameEmpty (id : IdUid)
  | propertyNameLong (name : String)
  | propertyNameRepeated (name : String)
  | storeNameRepeated (name : String)
  | entityIdInvalid (name : String) (id : IdUid)
  | entityIdAboveLast (name : String) (id last : UInt32)
  | entityIdRepeated (id : UInt32) (first second : String)
  | entityUidRepeated (uid : UInt64) (first second : String)
  | entityNameEmpty (id : IdUid)
  | entityNameLong (name : String)
  | entityNameRepeated (name : String)
  deriving DecidableEq, Repr

namespace Issue

def message : Issue → String
  | lastPropertyIdUnset => "last property id must be set"
  | tooManyProperties count =>
    s!"{count} properties exceed the vtable limit of {maxProperties}"
  | propertiesExceedSlots count slots =>
    s!"{count} properties do not fit into {slots.toNat} slots (last property id)"
  | propertyIdInvalid name id => s!"property '{name}' has an invalid id/uid {id.render}"
  | propertyIdAboveLast name id last =>
    s!"property '{name}' id {id.toNat} is above the last property id {last.toNat}"
  | propertyIdRepeated id first second =>
    s!"duplicate property id {id.toNat} for '{first}' and '{second}'"
  | propertyUidRepeated uid first second =>
    s!"duplicate property uid {uid.toNat} for '{first}' and '{second}'"
  | identifierMissing => "no identifier property (flag one property as ID or name it 'id')"
  | identifierType name type =>
    s!"identifier property '{name}' must be u64, found {type.spelling}"
  | identifierRepeated names => "multiple identifier properties: " ++ ", ".intercalate names
  | propertyNameEmpty id => s!"property {id.render} has an empty name"
  | propertyNameLong name => s!"property name '{name}' exceeds {maxNameLength} characters"
  | propertyNameRepeated name => s!"duplicate property name '{name}'"
  | storeNameRepeated name => s!"duplicate store name '{name}'"
  | entityIdInvalid name id => s!"entity '{name}' has an invalid id/uid {id.render}"
  | entityIdAboveLast name id last =>
    s!"entity '{name}' id {id.toNat} is above the last entity id {last.toNat}"
  | entityIdRepeated id first second =>
    s!"duplicate entity id {id.toNat} for '{first}' and '{second}'"
  | entityUidRepeated uid first second =>
    s!"duplicate entity uid {uid.toNat} for '{first}' and '{second}'"
  | entityNameEmpty id => s!"entity {id.render} has an empty name"
  | entityNameLong name => s!"entity name '{name}' exceeds {maxNameLength} characters"
  | entityNameRepeated name => s!"duplicate entity name '{name}'"

end Issue

def issueIf (condition : Bool) (issue : Issue) : List Issue := if condition then [issue] else []

/-- Each element with the nearest one before it that has the same key. -/
def withPrevious {α κ : Type} [Ord κ] (key : α → κ) (seen : Std.TreeMap κ α) :
    List α → List (α × Option α)
  | [] => []
  | x :: rest => (x, seen[key x]?) :: withPrevious key (seen.insert (key x) x) rest

namespace Entity

def countIssues (e : Entity) : List Issue :=
  let count := e.properties.size
  issueIf (e.lastPropertyId.id == 0) .lastPropertyIdUnset ++
    issueIf (maxProperties < count) (.tooManyProperties count) ++
    issueIf (e.slotCount.toNat < count) (.propertiesExceedSlots count e.slotCount)

/-- Problems with the ids of one property, given the earlier ones with its id and its uid. -/
def propertyIdIssues (last : UInt32) (p : Property) (sameId sameUid : Option Property) :
    List Issue :=
  issueIf (p.id == 0 || p.uid == 0) (.propertyIdInvalid p.name p.idUid) ++
    issueIf (last < p.id) (.propertyIdAboveLast p.name p.id last) ++
    (sameId.map fun q => Issue.propertyIdRepeated p.id q.name p.name).toList ++
    (sameUid.map fun q => Issue.propertyUidRepeated p.uid q.name p.name).toList

def idIssues (e : Entity) : List Issue :=
  let ps := e.properties.toList
  ((withPrevious Property.id ∅ ps).zip (withPrevious Property.uid ∅ ps)).flatMap
    fun ((p, sameId), (_, sameUid)) => propertyIdIssues e.lastPropertyId.id p sameId sameUid

/-- Problems with the identifier: there must be exactly one, of the type `u64`. -/
def identifierIssues (e : Entity) : List Issue :=
  match e.properties.toList.filter Property.isIdentifier with
  | [] => [.identifierMissing]
  | [p] => issueIf (p.type != .field .u64) (.identifierType p.name p.type)
  | many => [.identifierRepeated (many.map Property.name)]

/-- Problems with the names of properties, given the names and store names seen before them. A
property without a name or store name has no further problem with names. -/
def namingIssuesFrom (names storeNames : Std.TreeSet String) : List Property → List Issue
  | [] => []
  | p :: rest =>
    if p.name.isEmpty || p.storeName.isEmpty then
      .propertyNameEmpty p.idUid :: namingIssuesFrom names storeNames rest
    else
      issueIf (maxNameLength < p.name.utf8ByteSize) (.propertyNameLong p.name) ++
        issueIf (names.contains p.name) (.propertyNameRepeated p.name) ++
        issueIf (storeNames.contains p.storeName) (.storeNameRepeated p.storeName) ++
        namingIssuesFrom (names.insert p.name) (storeNames.insert p.storeName) rest

def namingIssues (e : Entity) : List Issue := namingIssuesFrom ∅ ∅ e.properties.toList

/-- Every problem within the entity. -/
def issues (e : Entity) : List Issue :=
  e.countIssues ++ e.idIssues ++ e.identifierIssues ++ e.namingIssues

end Entity

namespace Schema

/-- Problems with the ids of one entity, given the earlier ones with its id and its uid. -/
def entityIdIssues (last : UInt32) (e : Entity) (sameId sameUid : Option Entity) : List Issue :=
  issueIf (e.id == 0 || e.uid == 0) (.entityIdInvalid e.name e.idUid) ++
    issueIf (last < e.id) (.entityIdAboveLast e.name e.id last) ++
    (sameId.map fun q => Issue.entityIdRepeated e.id q.name e.name).toList ++
    (sameUid.map fun q => Issue.entityUidRepeated e.uid q.name e.name).toList

def idIssues (s : Schema) : List Issue :=
  let es := s.entities.toList
  ((withPrevious Entity.id ∅ es).zip (withPrevious Entity.uid ∅ es)).flatMap
    fun ((e, sameId), (_, sameUid)) => entityIdIssues s.lastEntityId.id e sameId sameUid

def namingIssues (s : Schema) : List Issue :=
  (withPrevious Entity.name ∅ s.entities.toList).flatMap fun (e, sameName) =>
    (if e.name.isEmpty then [.entityNameEmpty e.idUid]
      else issueIf (maxNameLength < e.name.utf8ByteSize) (.entityNameLong e.name)) ++
      issueIf sameName.isSome (.entityNameRepeated e.name)

/-- Every problem within entities, under their names, and then those between them. -/
def issueTree (s : Schema) : ErrorTree :=
  let within := s.entities.foldl
    (fun t e => t.mergeFor e.name (ErrorTree.empty.append (e.issues.map Issue.message)))
    ErrorTree.empty
  within.append ((s.idIssues ++ s.namingIssues).map Issue.message)

/-- Accepts a schema without problems. -/
def validate (s : Schema) : Except ErrorTree Unit := s.issueTree.result

end Schema

end RecordStore

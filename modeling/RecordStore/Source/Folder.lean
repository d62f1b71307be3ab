import RecordStore.Source.Unit
import RecordStore.Text.Blank

/-! Folders of files, and the generated source that is kept in them. -/
namespace RecordStore

/-- What stands under a name. -/
inductive FolderEntry
  | file (contents : ByteArray)
  | folder (entries : List (String × FolderEntry))

/-- Entries under their names, in the order of the names. -/
abbrev Folder := List (String × FolderEntry)

namespace Folder

def get? (f : Folder) (name : String) : Option FolderEntry := f.lookup name

/-- Puts an entry under a name, in the place of the old one. -/
def put (name : String) (entry : FolderEntry) : Folder → Folder
  | [] => [(name, entry)]
  | (n, e) :: rest =>
    if name = n then (name, entry) :: rest
    else if name < n then (name, entry) :: (n, e) :: rest
    else (n, e) :: put name entry rest

def subfolder? (f : Folder) : List String → Option Folder
  | [] => some f
  | name :: rest =>
    match f.get? name with
    | some (.folder g) => subfolder? g rest
    | _ => none

/-- Changes the folder along names; folders that are missing are made. -/
def update (change : Folder → Folder) (f : Folder) : List String → Folder
  | [] => change f
  | name :: rest =>
    let inner : Folder := match f.get? name with
      | some (.folder g) => g
      | _ => []
    f.put name (.folder (update change inner rest))

/-- Follows the steps of a path through folders that exist. -/
def walk (f : Folder) (place : List String) : List String → Option (List String)
  | [] => some place
  | step :: rest =>
    if step = "" ∨ step = "." then f.walk place rest
    else if step = ".." then if place.isEmpty then none else f.walk place.dropLast rest
    else if (f.subfolder? (place ++ [step])).isSome then f.walk (place ++ [step]) rest
    else none

/-- The names of a path, which slashes separate. -/
def steps (path : String) : List String := (path.toList.splitOn '/').map String.ofList

/-- Longest name of a file, in bytes. -/
def maxFileName : Nat := 255

def isFileName (name : String) : Bool :=
  name != "" && name != "." && name != ".." && name.utf8ByteSize ≤ maxFileName

/-- Writes a file, unless its folder is missing or another folder has its name. -/
def write? (f : Folder) (path : String) (contents : ByteArray) : Option Folder := do
  let name ← (steps path).getLast?
  if path.contains '\x00' || !isFileName name then none
  else
    let place ← f.walk [] (steps path).dropLast
    match (← f.subfolder? place).get? name with
    | some (.folder _) => none
    | _ => return f.update (put name (.file contents)) place

/-- Adds a file or a folder, with the folders that lead to it. -/
def add (f : Folder) (path : String) (entry : FolderEntry) : Folder :=
  f.update (put ((steps path).getLast?.getD "") entry) (steps path).dropLast

def addFolder (f : Folder) (path : String) : Folder := f.update id (steps path)

mutual

/-- Every entry with its path; `route` leads to the folder. -/
def listFrom (route : String) : List (String × FolderEntry) → List (String × Option ByteArray)
  | [] => []
  | (name, e) :: rest => listEntry (route ++ name) e ++ listFrom route rest

def listEntry (path : String) : FolderEntry → List (String × Option ByteArray)
  | .file contents => [(path, some contents)]
  | .folder entries => (path, none) :: listFrom (path ++ "/") entries

end

/-- Every entry with its path, folders before what is in them; files have contents. -/
def list (f : Folder) : List (String × Option ByteArray) := listFrom "" f

def firstLine? (contents : ByteArray) : Option String :=
  String.fromUTF8? ⟨(contents.data.toList.takeWhile (· != 10)).toArray⟩

/-- Whether the first line of a file is the header of generated source, blanks at its end apart. -/
def isGenerated (contents : ByteArray) : Bool :=
  (firstLine? contents).any fun line => Text.trimEnd line.toList == sourceHeader.toList

/-- Whether an entry is left over from generated source with the suffix. -/
def isStale (fileSuffix : String) : String × FolderEntry → Bool
  | (name, .file contents) => name.endsWith fileSuffix && isGenerated contents
  | (_, .folder _) => false

/-- Writes units in order, up to the first that cannot be written. -/
def writeUnits (f : Folder) : List SourceUnit → Folder × Bool
  | [] => (f, true)
  | u :: rest =>
    match f.write? u.fileName u.contents.toUTF8 with
    | some f => f.writeUnits rest
    | none => (f, false)

end Folder

namespace GeneratedSource

/-- Puts generated source in the place of what was generated before. Tells whether every unit
was written. -/
def writeTo (s : GeneratedSource) (f : Folder) : Folder × Bool :=
  Folder.writeUnits (f.filter fun e => !Folder.isStale s.fileSuffix e) s.units

end GeneratedSource

end RecordStore

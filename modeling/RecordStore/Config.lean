import RecordStore.Config.Assignment

/-! Options of the source generator. -/
namespace RecordStore

/-- What generated source refers to and is named by. -/
structure Config where
  /-- Path under which generated source names the runtime. -/
  runtimePath : String := "::boxdb"
  /-- Name of the function that gives the model. -/
  modelFunction : String := "boxdb_model"
  /-- Suffix of the names of generated files. -/
  fileSuffix : String := ".obx.rs"
  deriving DecidableEq, Repr, Inhabited

namespace Config

/-- Why no options could be had. -/
inductive LoadError
  /-- The file is missing or not a text. -/
  | unreadable
  | invalid
  deriving DecidableEq, Repr

def set? (c : Config) : String × String → Option Config
  | ("runtime_path", v) => some { c with runtimePath := v }
  | ("model_fn", v) => some { c with modelFunction := v }
  | ("file_suffix", v) => some { c with fileSuffix := v }
  | _ => none

/-- Reads options, each of which may be set once; the others keep their defaults. -/
def parse? (text : String) : Option Config := do
  let pairs ← Assignment.parse? text
  if (pairs.map (·.1)).Nodup then pairs.foldlM set? {} else none

def ofFile (contents : Option ByteArray) : Except LoadError Config :=
  match contents.bind String.fromUTF8? with
  | none => .error .unreadable
  | some text =>
    match parse? text with
    | some c => .ok c
    | none => .error .invalid

end Config

end RecordStore

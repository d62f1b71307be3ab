import RecordStore.Config
import RecordStore.Schema.Validate
import RecordStore.Source.Binding

/-! Generated source: a unit for each entity and one for the model. -/
namespace RecordStore

/-- The first line of every generated unit. -/
def sourceHeader : String := "// This file was automatically generated by boxdb, do not modify"

/-- A file of generated source. -/
structure SourceUnit where
  fileName : String
  code : String
  deriving DecidableEq, Repr

/-- Everything generated for a schema. -/
structure GeneratedSource where
  units : List SourceUnit
  fileSuffix : String
  deriving DecidableEq, Repr

namespace SourceUnit

def contents (u : SourceUnit) : String := sourceHeader ++ "\n\n" ++ u.code ++ "\n"

end SourceUnit

namespace GeneratedSource

def unit? (s : GeneratedSource) (fileName : String) : Option SourceUnit :=
  s.units.find? (·.fileName == fileName)

def render (s : GeneratedSource) : String :=
  sourceHeader ++ "\n" ++ String.join (s.units.map fun u => "\n" ++ u.code ++ "\n")

end GeneratedSource

namespace Binding

/-- The unit of the binding. -/
def unit (path : Source.Path) (fileSuffix : String) (b : Binding) : SourceUnit :=
  ⟨Text.Words.snake b.entity.name ++ fileSuffix, (b.code path).text⟩

end Binding

namespace Schema

/-- The source for a schema, which has to be valid. -/
def generate (s : Schema) (config : Config) : Except GenerationError GeneratedSource := do
  s.validate.mapError .invalidSchema
  match Source.Path.parse? config.runtimePath with
  | none => throw (.invalidRuntimePath config.runtimePath)
  | some path =>
    let bindings ← s.bindings
    let function ← identifierFor config.modelFunction
    let units := bindings.map (·.unit path config.fileSuffix)
    let model : SourceUnit :=
      ⟨config.modelFunction ++ config.fileSuffix, (s.modelCode path function bindings).text⟩
    return ⟨units ++ [model], config.fileSuffix⟩

end Schema

end RecordStore

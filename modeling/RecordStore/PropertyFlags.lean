import RecordStore.Text.Quoted

/-! Flags of properties: a set of bits, some of them named. -/
namespace RecordStore

/-- A set of flags. Bits without a name are kept as they are. -/
structure PropertyFlags where
  bits : UInt32
  deriving DecidableEq, Repr, Inhabited

namespace PropertyFlags

def none : PropertyFlags := ⟨0⟩

/-- Marks the identifier of an entity. -/
def identifier : PropertyFlags := ⟨1⟩

def unsigned : PropertyFlags := ⟨8192⟩

def named : List (String × PropertyFlags) := [
  ("ID", identifier), ("NON_PRIMITIVE_TYPE", ⟨2⟩), ("NOT_NULL", ⟨4⟩), ("INDEXED", ⟨8⟩),
  ("RESERVED", ⟨16⟩), ("UNIQUE", ⟨32⟩), ("ID_MONOTONIC_SEQUENCE", ⟨64⟩),
  ("ID_SELF_ASSIGNABLE", ⟨128⟩), ("INDEX_PARTIAL_SKIP_NULL", ⟨256⟩),
  ("INDEX_PARTIAL_SKIP_ZERO", ⟨512⟩), ("VIRTUAL", ⟨1024⟩), ("INDEX_HASH", ⟨2048⟩),
  ("INDEX_HASH64", ⟨4096⟩), ("UNSIGNED", unsigned)]

def isEmpty (f : PropertyFlags) : Bool := f.bits == 0

def contains (f g : PropertyFlags) : Bool := f.bits &&& g.bits == g.bits

def union (f g : PropertyFlags) : PropertyFlags := ⟨f.bits ||| g.bits⟩

def unknownBits (f : PropertyFlags) : UInt32 :=
  f.bits &&& ~~~(named.foldl (fun known (_, g) => known ||| g.bits) 0)

def names (f : PropertyFlags) : List String :=
  (named.filter fun (_, g) => f.contains g).map (·.1)

/-- The names and then the bits without a name, in hexadecimal. -/
def render (f : PropertyFlags) : String :=
  if f.isEmpty then "NONE"
  else
    let unknown := f.unknownBits.toNat
    let rest := if unknown = 0 then [] else ["0x" ++ String.ofList (Text.Quoted.hex unknown)]
    " | ".intercalate (f.names ++ rest)

def debugText (f : PropertyFlags) : String := s!"PropertyFlags({f.render})"

@[simp] theorem bits_union (f g : PropertyFlags) : (f.union g).bits = f.bits ||| g.bits := rfl

@[simp] theorem union_none (f : PropertyFlags) : f.union none = f := by simp [union, none]

end PropertyFlags

end RecordStore

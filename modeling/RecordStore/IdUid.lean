import RecordStore.Text.Blank
import RecordStore.Text.Numeral

/-! Identity of entities and properties: an id that may be reassigned and a uid that stays. -/
namespace RecordStore

/-- A model id with its unique id, written `id:uid`. -/
structure IdUid where
  id : UInt32
  uid : UInt64
  deriving DecidableEq, Repr, Inhabited

/-- Why a text is no `id:uid`. -/
inductive IdUidError
  | format (text : String)
  | number (text : String)
  deriving DecidableEq, Repr

namespace IdUidError

def message : IdUidError → String
  | .format text => s!"id/uid '{text}' must have the form 'id:uid'"
  | .number text => s!"id/uid '{text}' contains a non-numeric component"

end IdUidError

namespace IdUid

def render (x : IdUid) : String := s!"{x.id.toNat}:{x.uid.toNat}"

/-- The id zero is never given to an entity or property. -/
def isZero (x : IdUid) : Bool := x.id == 0

def splitColon : List Char → Option (List Char × List Char)
  | [] => none
  | ':' :: rest => some ([], rest)
  | c :: rest => (splitColon rest).map fun (a, b) => (c :: a, b)

/-- Reads the written form; blanks around the numbers and plus signs before them are allowed. -/
def parse (text : String) : Except IdUidError IdUid :=
  match splitColon text.toList with
  | none => .error (.format text)
  | some (a, b) =>
    match Text.Numeral.parse? UInt32.size (Text.trim a),
        Text.Numeral.parse? UInt64.size (Text.trim b) with
    | some id, some uid => .ok ⟨UInt32.ofNat id, UInt64.ofNat uid⟩
    | _, _ => .error (.number text)

theorem splitColon_eq_none_iff (s : List Char) : splitColon s = none ↔ ':' ∉ s := by
  fun_induction splitColon s with
  | case1 => simp
  | case2 => simp
  | case3 c rest h ih =>
    have hc : ':' ≠ c := fun e => h e.symm
    simp [ih, hc]

theorem eq_append_of_splitColon {s a b : List Char} (h : splitColon s = some (a, b)) :
    s = a ++ ':' :: b ∧ ':' ∉ a := by
  fun_induction splitColon s generalizing a b with
  | case1 => simp at h
  | case2 rest => simp at h; simp [h]
  | case3 c rest hc ih =>
    simp only [Option.map_eq_some_iff, Prod.mk.injEq, Prod.exists] at h
    obtain ⟨x, y, hxy, rfl, rfl⟩ := h
    obtain ⟨rfl, hx⟩ := ih hxy
    have hc : ':' ≠ c := fun e => hc e.symm
    simp [hx, hc]

end IdUid

end RecordStore

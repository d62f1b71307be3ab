import Mathlib.Data.List.Nodup
import RecordStore.Proofs.Outcome
import RecordStore.Source.Binding

/-! The source that encodes records, statement by statement: which variable holds which child, and
the child that each slot comes to refer to. -/
namespace RecordStore

open Source Text

namespace BoundField

/-- The call that creates the child of a field, if it has one. -/
def childFunction? (f : BoundField) : Option String :=
  match f.type with
  | .text => some "create_string"
  | .bytes => some "create_byte_vector"
  | _ => none

/-- Whether the slot of a field refers to a child. -/
def refers (f : BoundField) : Bool := !f.property.isIdentifier && f.childFunction?.isSome

end BoundField

namespace Source

/-- A statement of the source that encodes records. -/
inductive FlattenStatement
  /-- A variable comes to hold the child that a call creates for a field. -/
  | child (holder : Identifier) (function : String) (f : BoundField)
  | startTable (slotCount : UInt32)
  /-- A slot comes to refer to the child that a variable holds. -/
  | refer (slot : UInt16) (holder : Identifier)
  /-- The slot of a field is filled with a value. -/
  | fill (f : BoundField)

namespace FlattenStatement

def code (path : Path) : FlattenStatement → Code
  | child holder function f =>
    ["let"] ++ Code.ofIdentifier holder ++ ["="] ++
      Code.tryCall ("fbb . " ++ function) [["&"] ++ f.access]
  | startTable slotCount => Code.tryCall "fbb . start_table" [Code.ofNat slotCount.toNat]
  | refer slot holder =>
    Code.tryCall "fbb . push_offset_slot" [Code.ofNat slot.toNat, Code.ofIdentifier holder]
  | fill f => f.writeCode path

/-- The fields whose children slots come to refer to, where variables hold the children of some
fields before. The newest variable of a name hides the others. -/
def references (held : List (String × BoundField)) :
    List FlattenStatement → List (UInt16 × Option BoundField)
  | [] => []
  | child holder _ f :: rest => references ((holder.name, f) :: held) rest
  | refer slot holder :: rest => (slot, held.lookup holder.name) :: references held rest
  | startTable _ :: rest => references held rest
  | fill _ :: rest => references held rest

end FlattenStatement

end Source

namespace BoundField

/-- The statement that creates the child of a field, if it has one. -/
def childStatements (f : BoundField) : List FlattenStatement :=
  f.childFunction?.toList.map fun function => .child f.child function f

/-- The statement that fills the slot of a field. -/
def writeStatement (f : BoundField) : FlattenStatement :=
  if f.refers then .refer f.property.slot f.child else .fill f

theorem childCode_eq (path : Path) (f : BoundField) :
    f.childCode = f.childStatements.flatMap (FlattenStatement.code path) := by
  rw [childCode.eq_def, childStatements, childFunction?]
  cases f.type <;> simp [FlattenStatement.code]

theorem writeCode_eq (path : Path) (f : BoundField) :
    f.writeCode path = f.writeStatement.code path := by
  rw [writeStatement]
  by_cases hr : f.refers = true
  · rw [if_pos hr, FlattenStatement.code, writeCode]
    simp only [refers, Bool.and_eq_true, Bool.not_eq_true'] at hr
    rw [hr.1, if_neg Bool.false_ne_true]
    have hchild := hr.2
    rw [childFunction?] at hchild
    cases ht : f.type <;> simp [ht] at hchild ⊢
  · rw [if_neg hr, FlattenStatement.code]

end BoundField

namespace Binding

variable (b : Binding)

/-- The statements that encode a record. -/
def flattenStatements : List FlattenStatement :=
  b.fields.flatMap BoundField.childStatements ++ .startTable b.entity.slotCount ::
    b.fields.map BoundField.writeStatement

/-- The method that encodes records, without its body. -/
def flattenHead (path : Path) : Code :=
  Code.ofWords "fn flatten" ++
    Code.paren (["&", "self", ",", if b.entity.storesMore then "entity" else "_entity", ":", "&"] ++
      Code.ofIdentifier b.record ++ Code.ofWords ", fbb : & mut" ++ path.member "BufferBuilder" ++
      Code.ofWords ", id : u64 ,") ++
    ["->"] ++ Code.outcome Code.unit (path.member "Error")

/-- The method spells the statements, and then that all went well. -/
theorem flattenCode_eq (path : Path) :
    b.flattenCode path = b.flattenHead path ++
      Code.brace (b.flattenStatements.flatMap (FlattenStatement.code path) ++ Code.success) := by
  have hchildren : b.fields.flatMap BoundField.childCode =
      (b.fields.flatMap BoundField.childStatements).flatMap (FlattenStatement.code path) := by
    rw [List.flatMap_assoc]
    exact congrArg (b.fields.flatMap ·) (funext fun f => f.childCode_eq path)
  have hwrites : b.fields.flatMap (·.writeCode path) =
      (b.fields.map BoundField.writeStatement).flatMap (FlattenStatement.code path) := by
    rw [List.flatMap_map]
    exact congrArg (b.fields.flatMap ·) (funext fun f => f.writeCode_eq path)
  rw [flattenCode, hchildren, hwrites, flattenStatements, List.flatMap_append, List.flatMap_cons]
  simp only [flattenHead, FlattenStatement.code, List.append_assoc]

end Binding

namespace Source.FlattenStatement

variable {fields : List BoundField}

/-- What variables hold after the children of some fields were created. -/
def heldBy (fields : List BoundField) : List (String × BoundField) :=
  ((fields.filter (·.childFunction?.isSome)).map fun f => (f.child.name, f)).reverse

theorem references_children (held : List (String × BoundField)) (rest : List FlattenStatement) :
    references held (fields.flatMap BoundField.childStatements ++ rest) =
      references (heldBy fields ++ held) rest := by
  induction fields generalizing held with
  | nil => rfl
  | cons f fields ih =>
    rw [List.flatMap_cons, List.append_assoc, BoundField.childStatements, heldBy, List.filter_cons]
    cases hf : f.childFunction? with
    | none => exact ih held
    | some function =>
      refine (ih _).trans ?_
      simp [heldBy]

theorem references_writes (held : List (String × BoundField)) :
    references held (fields.map BoundField.writeStatement) =
      (fields.filter BoundField.refers).map fun f => (f.property.slot, held.lookup f.child.name) := by
  induction fields with
  | nil => rfl
  | cons f fields ih =>
    rw [List.map_cons, List.filter_cons, BoundField.writeStatement]
    by_cases hr : f.refers = true
    · rw [if_pos hr, if_pos hr, List.map_cons, references, ih]
    · rw [if_neg hr, if_neg hr, references, ih]

/-- Each slot that refers to a child refers to the last one held under the name of its variable. -/
theorem references_flattenStatements (b : Binding) :
    references [] b.flattenStatements =
      (b.fields.filter BoundField.refers).map fun f =>
        (f.property.slot, (heldBy b.fields).lookup f.child.name) := by
  rw [Binding.flattenStatements, references_children, List.append_nil, references,
    references_writes]

theorem lookup_eq_some_of_nodup {α : Type} {entries : List (String × α)} {name : String} {a : α}
    (hn : (entries.map Prod.fst).Nodup) (h : (name, a) ∈ entries) :
    entries.lookup name = some a := by
  obtain ⟨before, after, rfl⟩ := List.append_of_mem h
  refine List.lookup_eq_some_iff.mpr ⟨before, after, rfl, fun entry he => bne_iff_ne.mpr ?_⟩
  rw [List.map_append, List.nodup_append] at hn
  exact (hn.2.2 entry.1 (List.mem_map_of_mem he) name (by simp)).symm

/-- Slots refer to their own children if the variables have names of their own. -/
theorem references_of_nodup {b : Binding} (h : (b.fields.map (·.child.name)).Nodup) :
    references [] b.flattenStatements =
      (b.fields.filter BoundField.refers).map fun f => (f.property.slot, some f) := by
  rw [references_flattenStatements]
  refine List.map_congr_left fun f hf => ?_
  obtain ⟨hmem, hr⟩ := List.mem_filter.mp hf
  simp only [BoundField.refers, Bool.and_eq_true] at hr
  have hheld : (f.child.name, f) ∈ heldBy b.fields :=
    List.mem_reverse.mpr (List.mem_map_of_mem (List.mem_filter.mpr ⟨hmem, hr.2⟩))
  have hnames : ((heldBy b.fields).map Prod.fst).Nodup := by
    rw [heldBy, List.map_reverse, List.map_map, List.nodup_reverse]
    exact (List.filter_sublist.map _).nodup h
  rw [lookup_eq_some_of_nodup hnames hheld]

end Source.FlattenStatement

end RecordStore

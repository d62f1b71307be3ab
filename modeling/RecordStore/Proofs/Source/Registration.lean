import RecordStore.Proofs.Outcome
import RecordStore.Source.Binding

/-! The source that registers an entity, statement by statement: what each statement spells, and the
call that it makes. Flags are spelt by their names and the bits left over, and come out whole. -/
namespace RecordStore.Source

/-- An operand of an expression of flags. -/
inductive FlagTerm
  | named (name : String)
  | retained (bits : UInt32)

namespace FlagTerm

def code (path : Path) : FlagTerm → Code
  | named name => path.member "PropertyFlags" ++ ["::", name]
  | retained bits =>
    path.member "PropertyFlags" ++ ["::", "from_bits_retain"] ++ Code.paren (Code.ofNat bits.toNat)

/-- The flags that an operand stands for, if its name is one of a flag. -/
def flags? : FlagTerm → Option PropertyFlags
  | named name => PropertyFlags.named.lookup name
  | retained bits => some ⟨bits⟩

/-- The union of operands, from the left. -/
def unionFrom (f : PropertyFlags) (terms : List FlagTerm) : Option PropertyFlags :=
  terms.foldlM (fun f term => term.flags?.map f.union) f

end FlagTerm

/-- A statement of the source that registers an entity. -/
inductive Statement
  | entity (name : String) (id : UInt32) (uid : UInt64)
  | property (name : String) (type : PropertyType) (id : UInt32) (uid : UInt64)
  | flags (terms : List FlagTerm)
  | lastPropertyId (id : IdUid)

namespace Statement

def code (path : Path) : Statement → Code
  | entity name id uid =>
    Code.tryCall "model . entity" [Code.ofText name, Code.ofNat id.toNat, Code.ofNat uid.toNat]
  | property name type id uid =>
    Code.tryCall "model . property" [Code.ofText name,
      path.member "PropertyType" ++ ["::", type.name], Code.ofNat id.toNat, Code.ofNat uid.toNat]
  | flags terms =>
    Code.tryCall "model . property_flags" [List.intercalate ["|"] (terms.map (FlagTerm.code path))]
  | lastPropertyId id =>
    Code.tryCall "model . entity_last_property_id" [Code.ofNat id.id.toNat, Code.ofNat id.uid.toNat]

/-- The call that a statement makes. -/
def call? : Statement → Option ModelCall
  | entity name id uid => some (.entity name id uid)
  | property name type id uid => some (.property name type id uid)
  | flags terms => (FlagTerm.unionFrom .none terms).map .flags
  | lastPropertyId id => some (.lastPropertyId id)

end Statement

end RecordStore.Source

namespace RecordStore

open Source

theorem mapM_flatMap {α β γ : Type} {f : α → List β} {g : β → Option γ} {h : α → List γ}
    (hf : ∀ x, (f x).mapM g = some (h x)) (xs : List α) :
    (xs.flatMap f).mapM g = some (xs.flatMap h) := by
  induction xs with
  | nil => rfl
  | cons x xs ih =>
    rw [List.flatMap_cons, List.mapM_append, hf x, ih]
    rfl

namespace PropertyFlags

/-- The operands that flags are spelt by. -/
def terms (f : PropertyFlags) : List FlagTerm :=
  f.names.map .named ++ if f.unknownBits = 0 then [] else [.retained f.unknownBits]

theorem code_eq (path : Path) (f : PropertyFlags) :
    f.code path = List.intercalate ["|"] (f.terms.map (FlagTerm.code path)) := by
  rw [code, terms, List.map_append, List.map_map]
  by_cases hu : f.unknownBits = 0
  · simp only [if_pos hu]
    rfl
  · simp only [if_neg hu]
    rfl

/-- Every named flag is a single bit, which flags have or have not. -/
theorem contains_or_and_eq_zero (f : PropertyFlags) {pair : String × PropertyFlags}
    (hp : pair ∈ named) : f.contains pair.2 = true ∨ f.bits &&& pair.2.bits = 0 := by
  have hbit : ∀ pair ∈ named, ∃ i < 32, pair.2.bits.toBitVec = BitVec.twoPow 32 i := by decide
  obtain ⟨i, -, hi⟩ := hbit pair hp
  rw [contains, beq_iff_eq, ← UInt32.toBitVec_inj, ← UInt32.toBitVec_inj, UInt32.toBitVec_and, hi,
    BitVec.and_twoPow]
  by_cases hf : f.bits.toBitVec.getLsbD i = true
  · exact .inl (if_pos hf)
  · exact .inr (if_neg hf)

theorem lookup_named {pair : String × PropertyFlags} (hp : pair ∈ named) :
    named.lookup pair.1 = some pair.2 := by
  revert pair
  decide

theorem and_or_bits (a b c : UInt32) : a &&& (b ||| c) = (a &&& b) ||| (a &&& c) :=
  UInt32.toBitVec_inj.mp BitVec.and_or_distrib_left

/-- The names that flags have among some are the part of the flags that these make up. -/
theorem unionFrom_named (f : PropertyFlags) {pairs : List (String × PropertyFlags)}
    (hp : ∀ pair ∈ pairs, pair ∈ named) (known : UInt32) :
    FlagTerm.unionFrom ⟨f.bits &&& known⟩
        ((pairs.filter fun (_, g) => f.contains g).map fun pair => .named pair.1) =
      some ⟨f.bits &&& pairs.foldl (fun known (_, g) => known ||| g.bits) known⟩ := by
  induction pairs generalizing known with
  | nil => rfl
  | cons pair pairs ih =>
    have hnext := ih (fun q hq => hp q (by simp [hq])) (known ||| pair.2.bits)
    rw [and_or_bits] at hnext
    rw [List.foldl_cons, ← hnext, List.filter_cons]
    by_cases hc : f.contains pair.2 = true
    · have hg : f.bits &&& pair.2.bits = pair.2.bits := by simpa [contains] using hc
      rw [if_pos hc, hg, List.map_cons, FlagTerm.unionFrom, List.foldlM_cons, FlagTerm.flags?,
        lookup_named (hp pair (by simp))]
      rfl
    · have hg := (f.contains_or_and_eq_zero (hp pair (by simp))).resolve_left hc
      rw [if_neg hc, hg, UInt32.or_zero]

/-- The operands that spell flags make them up, whatever bits they have. -/
theorem unionFrom_terms (f : PropertyFlags) : FlagTerm.unionFrom .none f.terms = some f := by
  have hnamed := f.unionFrom_named (fun _ hp => hp) 0
  have hwhole : (f.bits &&& named.foldl (fun known (_, g) => known ||| g.bits) 0) |||
      f.unknownBits = f.bits := by
    rw [unknownBits, ← and_or_bits, UInt32.or_not_self, UInt32.and_neg_one]
  rw [UInt32.and_zero, FlagTerm.unionFrom] at hnamed
  rw [terms, names, List.map_map, FlagTerm.unionFrom, List.foldlM_append]
  refine (congrArg (· >>= _) hnamed).trans ?_
  by_cases hu : f.unknownBits = 0
  · rw [hu, UInt32.or_zero] at hwhole
    rw [if_pos hu, hwhole]
    rfl
  · rw [if_neg hu]
    exact congrArg (fun bits => some (PropertyFlags.mk bits)) hwhole

end PropertyFlags

namespace BoundField

/-- The statements that register a field. -/
def statements (f : BoundField) : List Statement :=
  .property f.property.storeName f.property.storeType f.property.id f.property.uid ::
    if f.property.flags.isEmpty then [] else [.flags f.property.flags.terms]

theorem registrationCode_eq (path : Path) (f : BoundField) :
    f.registrationCode path = f.statements.flatMap (Statement.code path) := by
  rw [registrationCode, statements, List.flatMap_cons]
  by_cases hf : f.property.flags.isEmpty = true
  · simp only [if_pos hf]
    rfl
  · simp only [if_neg hf, PropertyFlags.code_eq, List.flatMap_cons, List.flatMap_nil,
      List.append_nil]
    rfl

theorem calls_statements (f : BoundField) :
    f.statements.mapM Statement.call? = some f.modelCalls := by
  rw [statements, modelCalls]
  by_cases hf : f.property.flags.isEmpty = true
  · simp only [if_pos hf]
    rfl
  · have hflags : (Statement.flags f.property.flags.terms).call? =
        some (.flags f.property.flags) := by
      rw [Statement.call?, PropertyFlags.unionFrom_terms, Option.map_some]
    simp only [if_neg hf]
    rw [List.mapM_cons, List.mapM_cons, hflags]
    rfl

end BoundField

namespace Binding

/-- The statements that register the entity of a binding. -/
def statements (b : Binding) : List Statement :=
  .entity b.entity.name b.entity.id b.entity.uid :: b.fields.flatMap BoundField.statements ++
    [.lastPropertyId b.entity.lastPropertyId]

/-- The method that registers an entity, without its body. -/
def addToModelHead (path : Path) : Code :=
  Code.ofWords "fn add_to_model" ++
    Code.paren (Code.ofWords "& self , model : & mut" ++ path.member "ModelBuilder" ++ [","]) ++
    ["->"] ++ Code.outcome Code.unit (path.member "ModelError")

/-- The method spells the statements, and then that all went well. -/
theorem addToModelCode_eq (path : Path) (b : Binding) :
    b.addToModelCode path = addToModelHead path ++
      Code.brace (b.statements.flatMap (Statement.code path) ++ Code.success) := by
  have hfields : b.fields.flatMap (·.registrationCode path) =
      (b.fields.flatMap BoundField.statements).flatMap (Statement.code path) := by
    rw [List.flatMap_assoc]
    exact congrArg (b.fields.flatMap ·) (funext fun f => f.registrationCode_eq path)
  rw [addToModelCode, hfields, statements, List.cons_append, List.flatMap_cons,
    List.flatMap_append, List.flatMap_cons, List.flatMap_nil, List.append_nil]
  simp only [addToModelHead, Statement.code, List.append_assoc]

/-- The statements make the calls that register the entity. -/
theorem calls_statements (b : Binding) : b.statements.mapM Statement.call? = some b.modelCalls := by
  rw [statements, List.cons_append, List.mapM_cons, List.mapM_append,
    mapM_flatMap BoundField.calls_statements]
  rfl

end Binding

end RecordStore

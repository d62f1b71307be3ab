import RecordStore.Engine.Matching
import RecordStore.Proofs.Outcome

/-! Values of conditions replaced: which condition of a list takes a parameter, what becomes of it,
and that the list is accepted as before. -/
namespace RecordStore

/-- The shapes of parameters. -/
inductive Parameter.Shape
  | string
  | stringIn
  | int
  | intPair
  | int64In
  | int32In
  | double
  | doublePair
  | bytes
  deriving DecidableEq

def Parameter.shape : Parameter → Shape
  | string _ => .string
  | stringIn _ => .stringIn
  | int _ => .int
  | intPair .. => .intPair
  | int64In _ => .int64In
  | int32In _ => .int32In
  | double _ => .double
  | doublePair .. => .doublePair
  | bytes _ => .bytes

namespace Test

/-- The kinds of tests: what is left of a test without its values. -/
inductive Kind
  | stringEquals
  | stringIn
  | intEquals
  | intGreater
  | intLess
  | intBetween
  | int64In
  | int32In
  | doubleGreater
  | doubleLess
  | doubleBetween
  | bytesEquals
  deriving DecidableEq

def kind : Test → Kind
  | stringEquals _ => .stringEquals
  | stringIn _ => .stringIn
  | intEquals _ => .intEquals
  | intGreater _ => .intGreater
  | intLess _ => .intLess
  | intBetween .. => .intBetween
  | int64In _ => .int64In
  | int32In _ => .int32In
  | doubleGreater _ => .doubleGreater
  | doubleLess _ => .doubleLess
  | doubleBetween .. => .doubleBetween
  | bytesEquals _ => .bytesEquals

/-- The values of a test. -/
def operand : Test → Parameter
  | stringEquals v => .string v
  | stringIn vs => .stringIn vs
  | intEquals v | intGreater v | intLess v => .int v
  | intBetween low high => .intPair low high
  | int64In vs => .int64In vs
  | int32In vs => .int32In vs
  | doubleGreater v | doubleLess v => .double v
  | doubleBetween low high => .doublePair low high
  | bytesEquals v => .bytes v

variable {test test' : Test} {v : Parameter}

/-- A test is its kind and its values: replacing the values gives the one test of the kind with
them. -/
theorem rebind?_eq_some :
    test.rebind? v = some test' ↔ test'.kind = test.kind ∧ test'.operand = v := by
  constructor
  · intro h
    cases test <;> cases v <;> cases h <;> exact ⟨rfl, rfl⟩
  · rintro ⟨hk, rfl⟩
    cases test <;> cases test' <;> cases hk <;> rfl

/-- A test takes the parameters that have the shape of its values. -/
theorem isSome_rebind? : (test.rebind? v).isSome = true ↔ v.shape = test.operand.shape := by
  cases test <;> cases v <;> simp [rebind?, Parameter.shape, operand]

theorem applies_of_kind (h : test'.kind = test.kind) (type : PropertyType) :
    test'.applies type = test.applies type := by
  cases test <;> cases test' <;> cases h <;> rfl

end Test

namespace Condition

variable {propertyId : UInt32} {v : Parameter} {conditions changed : List Condition}

/-- The condition is on the property, and the parameter has the shape of its values. -/
def Takes (propertyId : UInt32) (v : Parameter) (c : Condition) : Prop :=
  c.property.propertyId = propertyId ∧ v.shape = c.test.operand.shape

theorem isSome_iff_takes (propertyId : UInt32) (v : Parameter) (c : Condition) :
    (if c.property.propertyId = propertyId then c.test.rebind? v else none).isSome = true ↔
      c.Takes propertyId v := by
  rw [Takes]
  by_cases hp : c.property.propertyId = propertyId
  · simp [hp, Test.isSome_rebind?]
  · simp [hp]

theorem rebindFirst?_eq_none :
    rebindFirst? propertyId v conditions = none ↔ ∀ c ∈ conditions, ¬c.Takes propertyId v := by
  induction conditions with
  | nil => simp [rebindFirst?]
  | cons c rest ih =>
    have hc := isSome_iff_takes propertyId v c
    rw [rebindFirst?, List.forall_mem_cons, ← ih, ← hc]
    cases if c.property.propertyId = propertyId then c.test.rebind? v else none <;> simp

/-- The first condition that takes the parameter keeps its property and its kind, and has the
parameter for its values. -/
theorem of_rebindFirst? (h : rebindFirst? propertyId v conditions = some changed) :
    ∃ before c after test, conditions = before ++ c :: after ∧
      (∀ c' ∈ before, ¬c'.Takes propertyId v) ∧ c.Takes propertyId v ∧
      test.kind = c.test.kind ∧ test.operand = v ∧
      changed = before ++ { c with test := test } :: after := by
  induction conditions generalizing changed with
  | nil => cases h
  | cons c rest ih =>
    have hc := isSome_iff_takes propertyId v c
    rw [rebindFirst?] at h
    cases hr : if c.property.propertyId = propertyId then c.test.rebind? v else none with
    | some test =>
      rw [hr] at h hc
      cases h
      obtain ⟨-, hrebind⟩ := Option.ite_none_right_eq_some.mp hr
      obtain ⟨hkind, hoperand⟩ := Test.rebind?_eq_some.mp hrebind
      exact ⟨[], c, rest, test, rfl, by simp, hc.mp rfl, hkind, hoperand, rfl⟩
    | none =>
      rw [hr] at h hc
      obtain ⟨others, ho, rfl⟩ := Option.map_eq_some_iff.mp h
      obtain ⟨before, d, after, test, rfl, hbefore, hd, hkind, hoperand, rfl⟩ := ih ho
      refine ⟨c :: before, d, after, test, rfl, ?_, hd, hkind, hoperand, rfl⟩
      rw [List.forall_mem_cons]
      exact ⟨fun ht => by simp at hc; exact hc ht, hbefore⟩

/-- Conditions that do not take the parameter are passed over, and those after the first that does
are not looked at. -/
theorem rebindFirst?_append {before after : List Condition} {c : Condition} {test : Test}
    (hbefore : ∀ c' ∈ before, ¬c'.Takes propertyId v) (hc : c.Takes propertyId v)
    (hkind : test.kind = c.test.kind) (hoperand : test.operand = v) :
    rebindFirst? propertyId v (before ++ c :: after) =
      some (before ++ { c with test := test } :: after) := by
  induction before with
  | nil =>
    have hrebind := Test.rebind?_eq_some.mpr ⟨hkind, hoperand⟩
    simp only [List.nil_append, rebindFirst?, if_pos hc.1, hrebind]
  | cons d before ih =>
    rw [List.forall_mem_cons] at hbefore
    have hd := mt (isSome_iff_takes propertyId v d).mp hbefore.1
    rw [Bool.not_eq_true, Option.isSome_eq_false_iff, Option.isNone_iff_eq_none] at hd
    simp only [List.cons_append, rebindFirst?, hd, ih hbefore.2, Option.map_some]

end Condition

namespace ModelEntity

variable {e : ModelEntity}

theorem accept_of_kind {c : Condition} {test : Test} (h : test.kind = c.test.kind) :
    e.accept { c with test := test } = e.accept c := by
  have htarget : e.target { c with test := test } = e.target c := rfl
  simp only [accept, htarget, Test.applies_of_kind h]

/-- Conditions stay accepted when the values of one are replaced. -/
theorem accept_rebindFirst {propertyId : UInt32} {v : Parameter}
    {conditions changed : List Condition}
    (h : Condition.rebindFirst? propertyId v conditions = some changed)
    (ha : ∀ c ∈ conditions, e.accept c = .ok ()) : ∀ c ∈ changed, e.accept c = .ok () := by
  obtain ⟨before, c, after, test, rfl, -, -, hkind, -, rfl⟩ := Condition.of_rebindFirst? h
  rw [List.forall_mem_append, List.forall_mem_cons] at ha ⊢
  rw [accept_of_kind hkind]
  exact ha

end ModelEntity

end RecordStore

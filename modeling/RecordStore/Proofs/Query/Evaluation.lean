import RecordStore.Proofs.Buffer.Agreement
import RecordStore.Proofs.Query.Selection

/-! Evaluating conditions on rows that any calls on a builder wrote. The types and flags of the
model say in which form its values are written, and conditions hold of the values themselves. -/
namespace RecordStore

open Buffer

namespace ModelProperty

/-- What fills a slot writes a value in the form that the type and the flags of its property call
for. -/
inductive Writes (p : ModelProperty) : Content → Comparand → Prop
  | bool (v : Bool) (h : p.type = .bool) : p.Writes (.scalar v) (.number v.toNat)
  | byte (v : Int8) (h : p.type = .byte) (hs : p.isUnsigned = false) :
    p.Writes (.scalar v) (.number v.toInt)
  | unsignedByte (v : UInt8) (h : p.type = .byte) (hs : p.isUnsigned = true) :
    p.Writes (.scalar v) (.number v.toNat)
  | short (v : Int16) (h : p.type = .short) (hs : p.isUnsigned = false) :
    p.Writes (.scalar v) (.number v.toInt)
  | unsignedShort (v : UInt16) (h : p.type = .short) (hs : p.isUnsigned = true) :
    p.Writes (.scalar v) (.number v.toNat)
  | char (v : UInt32) (h : p.type = .char) : p.Writes (.scalar v) (.number v.toNat)
  | int (v : Int32) (h : p.type = .int) (hs : p.isUnsigned = false) :
    p.Writes (.scalar v) (.number v.toInt)
  | unsignedInt (v : UInt32) (h : p.type = .int) (hs : p.isUnsigned = true) :
    p.Writes (.scalar v) (.number v.toNat)
  | long (v : Int64) (h : p.type = .long) (hs : p.isUnsigned = false) :
    p.Writes (.scalar v) (.number v.toInt)
  | unsignedLong (v : UInt64) (h : p.type = .long) (hs : p.isUnsigned = true) :
    p.Writes (.scalar v) (.number v.toNat)
  | date (v : Int64) (h : p.type = .date) : p.Writes (.scalar v) (.number v.toInt)
  | relation (v : Int64) (h : p.type = .relation) : p.Writes (.scalar v) (.number v.toInt)
  | float (v : Binary32) (h : p.type = .float) : p.Writes (.scalar v) (.units v.units?)
  | double (v : Binary64) (h : p.type = .double) : p.Writes (.scalar v) (.units v.units?)
  | string (child : Offset) (s : String) (h : p.type = .string) :
    p.Writes (.child child s.toUTF8) (.text s)
  | bytes (child : Offset) (d : ByteArray) (h : p.type = .byteVector) :
    p.Writes (.child child d) (.bytes d)

end ModelProperty

/-- What properties of a type have in rows without their slot. -/
def PropertyType.blank : PropertyType → Comparand
  | string => .text ""
  | byteVector | stringVector => .bytes .empty
  | float | double => .units (some 0)
  | _ => .number 0

/-- A row has a value for the property of a place: its slot holds the value, or there is none. -/
inductive Buffer.Sheet.Stores (sheet : Sheet) (i : Nat) (p : ModelProperty) : Comparand → Prop
  | absent (h : ∀ slot content, (slot, content) ∈ sheet.contents → slot.toNat ≠ i) :
    sheet.Stores i p p.type.blank
  | held {slot : UInt16} {content : Content} {v : Comparand} (hi : slot.toNat = i)
    (h : (slot, content) ∈ sheet.contents) (hw : p.Writes content v) : sheet.Stores i p v

/-- A row has a value for the property that an entity knows under an id. -/
def ModelEntity.Stores (e : ModelEntity) (sheet : Sheet) (id : UInt32) (v : Comparand) : Prop :=
  ∃ i p, e.properties.findIdx? (·.id == id) = some i ∧ e.property? id = some p ∧ sheet.Stores i p v

namespace ModelProperty.Finds

variable {p : ModelProperty} {t : Table} {offset : UInt16}

/-! A property is of one kind, so one reader decides what is found. -/

theorem of_number {n : Int} (hp : p.type.isInteger = true) (h : p.readInt t offset = .ok n) :
    p.Finds t offset (.number n) := by
  refine ⟨fun _ => ⟨n, h, rfl⟩, ?_, ?_, ?_⟩ <;> intro ho <;>
    cases ht : p.type <;> simp [ht, PropertyType.isInteger] at hp ho

theorem of_units {x : Option Int} (hp : p.type = .float ∨ p.type = .double)
    (h : p.readUnits t offset = .ok x) : p.Finds t offset (.units x) := by
  refine ⟨?_, fun _ => ⟨x, h, rfl⟩, ?_, ?_⟩ <;> intro ho <;>
    rcases hp with hp | hp <;> simp [hp, PropertyType.isInteger] at ho

theorem of_text {s : String} (hp : p.type = .string) (h : t.string offset = .ok s) :
    p.Finds t offset (.text s) := by
  refine ⟨?_, ?_, fun _ => ⟨s, h, rfl⟩, ?_⟩ <;> intro ho <;> simp [hp, PropertyType.isInteger] at ho

theorem of_bytes {d : ByteArray} (hp : p.type = .byteVector) (h : t.byteVector offset = .ok d) :
    p.Finds t offset (.bytes d) := by
  refine ⟨?_, ?_, ?_, fun _ => ⟨d, h, rfl⟩⟩ <;> intro ho <;> simp [hp, PropertyType.isInteger] at ho

end ModelProperty.Finds

namespace Buffer.Sheet.ShownBy

variable {sheet : Sheet} {table : Table} {slot offset : UInt16} {p : ModelProperty}

/-- Readers find a value that was written as its property calls for. -/
theorem finds_of_writes (h : sheet.ShownBy table) (ho : slotOffset slot = .ok offset)
    {content : Content} {v : Comparand} (hc : (slot, content) ∈ sheet.contents)
    (hw : p.Writes content v) : p.Finds table offset v := by
  have hscalar {α : Type} [Scalar α] {value : α} (hm : (slot, .scalar value) ∈ sheet.contents)
      (default : α) : table.get offset default = .ok value := by
    obtain ⟨o, hso, hget⟩ := h.scalar hm
    rw [ho, Except.ok.injEq] at hso
    exact hso ▸ hget default
  have hchild {at_ : Offset} {data : ByteArray} (hm : (slot, .child at_ data) ∈ sheet.contents) :
      table.byteVector offset = .ok data := by
    obtain ⟨o, hso, hbytes⟩ := h.child hm
    rw [ho, Except.ok.injEq] at hso
    exact hso ▸ hbytes
  have hinteger {n : Int} (hp : p.type.isInteger = true) (hn : p.readInt table offset = .ok n) :=
    ModelProperty.Finds.of_number hp hn
  cases hw with
  | bool v hp =>
    refine hinteger (by rw [hp]; rfl) ?_
    simp only [ModelProperty.readInt, hp, hscalar hc, ok_bind]
    cases v <;> rfl
  | byte v hp hs | unsignedByte v hp hs | short v hp hs | unsignedShort v hp hs | int v hp hs
  | unsignedInt v hp hs | long v hp hs | unsignedLong v hp hs =>
    refine hinteger (by rw [hp]; rfl) ?_
    simp [ModelProperty.readInt, hp, hs, hscalar hc]
  | char v hp | date v hp | relation v hp =>
    refine hinteger (by rw [hp]; rfl) ?_
    simp [ModelProperty.readInt, hp, hscalar hc]
  | float v hp =>
    refine .of_units (.inl hp) ?_
    simp [ModelProperty.readUnits, hp, hscalar hc]
  | double v hp =>
    refine .of_units (.inr hp) ?_
    simp [ModelProperty.readUnits, hp, hscalar hc]
  | string child s hp => exact .of_text hp (Table.string_of_byteVector (hchild hc))
  | bytes child d hp => exact .of_bytes hp (hchild hc)

/-- Readers find the value that stands for an absent slot. -/
theorem finds_blank (h : sheet.ShownBy table) (ho : slotOffset slot = .ok offset)
    (hn : ∀ content, (slot, content) ∉ sheet.contents) : p.Finds table offset p.type.blank := by
  obtain ⟨-, hbytes, hget⟩ := h.blank ho (.inl hn)
  cases hp : p.type with
  | bool | byte | short | char | int | long | date | relation =>
    refine .of_number (by rw [hp]; rfl) ?_
    cases hu : p.isUnsigned <;> simp [ModelProperty.readInt, hp, hu, hget]
  | float =>
    refine .of_units (.inl hp) ?_
    simp only [ModelProperty.readUnits, hp, hget, ok_bind]
    rfl
  | double =>
    refine .of_units (.inr hp) ?_
    simp only [ModelProperty.readUnits, hp, hget, ok_bind]
    rfl
  | string => exact .of_text hp (Table.string_of_byteVector hbytes)
  | byteVector => exact .of_bytes hp hbytes
  | stringVector => constructor <;> intro ha <;> simp [hp, PropertyType.isInteger] at ha

/-- Whatever value the row has for a property, the reader for its slot finds it. -/
theorem finds_of_stores (h : sheet.ShownBy table) {i : Nat} (hi : i < UInt16.size)
    (ho : slotOffset (UInt16.ofNat i) = .ok offset) {v : Comparand} (hs : sheet.Stores i p v) :
    p.Finds table offset v := by
  cases hs with
  | absent hn =>
    exact h.finds_blank ho fun content hc => hn _ content hc (UInt16.toNat_ofNat_of_lt' hi)
  | held hslot hc hw =>
    subst hslot
    rw [UInt16.ofNat_toNat] at ho
    exact h.finds_of_writes ho hc hw

/-- An accepted condition comes out as it does on the value that the row has. -/
theorem satisfies_eq (h : sheet.ShownBy table) {e : ModelEntity} {c : Condition}
    (hc : e.accept c = .ok ()) {v : Comparand} (hs : e.Stores sheet c.property.propertyId v) :
    e.satisfies table c = .ok (v.passes c.test) := by
  obtain ⟨i, p, offset, hp, hindex, htarget, hi, ho, happlies⟩ := ModelEntity.of_accept hc
  obtain ⟨j, q, hj, hq, hstores⟩ := hs
  rw [hindex, Option.some.injEq] at hj
  rw [hp, Option.some.injEq] at hq
  subst hj hq
  rw [ModelEntity.satisfies, htarget, ok_bind]
  simp only [(h.finds_of_stores hi ho hstores).passes_eq happlies]
  rfl

end Buffer.Sheet.ShownBy

/-- Whatever calls wrote a row: if it has values for the properties of accepted conditions, absent
or in the form that the model calls for, then evaluating the conditions in any order comes to
whether they hold of all the values. -/
theorem satisfiesAll_of_calls {calls : List BuilderCall} {bytes : ByteArray}
    (h : (Session.new.run calls).builder.finish.1 = .ok bytes) :
    ∃ sheet table, (Session.new.run calls).root? = some sheet ∧ Table.root bytes = .ok table ∧
      ∀ (e : ModelEntity) (values : UInt32 → Comparand) (conditions : List Condition),
        (∀ c ∈ conditions, e.accept c = .ok () ∧
          e.Stores sheet c.property.propertyId (values c.property.propertyId)) →
        ∀ reordered : List Condition, reordered.Perm conditions →
          e.satisfiesAll table reordered =
            .ok (conditions.all fun c => (values c.property.propertyId).passes c.test) := by
  obtain ⟨sheet, table, hsheet, htable, hshown⟩ := root_shows_calls h
  refine ⟨sheet, table, hsheet, htable, ?_⟩
  intro e values conditions hc reordered hperm
  rw [← hperm.all_eq]
  refine ModelEntity.satisfiesAll_of_satisfies fun c hm => ?_
  obtain ⟨haccept, hstores⟩ := hc c (hperm.mem_iff.mp hm)
  exact hshown.satisfies_eq haccept hstores

/-- An entity with an unsigned, a signed, a text and a date property. -/
def tally : ModelEntity :=
  ⟨1, 11, "Tally", #[⟨1, 101, "id", .long, .unsigned⟩, ⟨2, 102, "change", .byte, .none⟩,
    ⟨3, 103, "label", .string, .none⟩, ⟨4, 104, "day", .date, .none⟩], none⟩

/-- A row with an id beyond the signed numbers, a negative change, a label and no day. -/
def tallyCalls : List BuilderCall :=
  [.string "ab", .start 4, .push 0 (9223372036854775813 : UInt64) 0, .push 1 (-3 : Int8) 0,
    .pushOffset 2 0]

/-- Conditions that the row satisfies. -/
def tallyConditions : List Condition :=
  [⟨⟨1, 1⟩, .intGreater Int64.maxValue⟩, ⟨⟨1, 2⟩, .intBetween (-3) (-3)⟩,
    ⟨⟨1, 3⟩, .stringIn ["cd", "ab"]⟩, ⟨⟨1, 4⟩, .intEquals 0⟩]

def tallyValues : UInt32 → Comparand
  | 1 => .number 9223372036854775813
  | 2 => .number (-3)
  | 3 => .text "ab"
  | _ => .number 0

theorem satisfiesAll_of_calls_tally :
    ∃ bytes table, (Session.new.run tallyCalls).builder.finish.1 = .ok bytes ∧
      Table.root bytes = .ok table ∧
      tally.satisfiesAll table tallyConditions.reverse = .ok true := by
  obtain ⟨bytes, h⟩ := exists_ok (x := (Session.new.run tallyCalls).builder.finish.1)
    (by decide +kernel)
  obtain ⟨sheet, table, hs, ht, hall⟩ := satisfiesAll_of_calls h
  have hsheet : (Session.new.run tallyCalls).root? =
      some ⟨4, [(0, .scalar (9223372036854775813 : UInt64)), (1, .scalar (-3 : Int8)),
        (2, .child ⟨4⟩ "ab".toUTF8)]⟩ := by with_unfolding_all rfl
  rw [hsheet, Option.some.injEq] at hs
  subst hs
  refine ⟨bytes, table, h, ht, ?_⟩
  have haccept : ∀ c ∈ tallyConditions, tally.accept c = .ok () := by decide +kernel
  refine (hall tally tallyValues tallyConditions (fun c hc => ⟨haccept c hc, ?_⟩) _
    (List.reverse_perm _)).trans (by decide)
  simp only [tallyConditions, List.mem_cons, List.not_mem_nil, or_false] at hc
  rcases hc with rfl | rfl | rfl | rfl
  · refine ⟨0, tally.properties[0], by decide +kernel, rfl, ?_⟩
    exact .held (show (0 : UInt16).toNat = 0 by rfl) (.head _) (.unsignedLong _ rfl (by decide))
  · refine ⟨1, tally.properties[1], by decide +kernel, rfl, ?_⟩
    exact .held (show (1 : UInt16).toNat = 1 by rfl) (.tail _ (.head _))
      (.byte (-3) rfl (by decide))
  · refine ⟨2, tally.properties[2], by decide +kernel, rfl, ?_⟩
    exact .held (show (2 : UInt16).toNat = 2 by rfl) (.tail _ (.tail _ (.head _)))
      (.string _ "ab" rfl)
  · refine ⟨3, tally.properties[3], by decide +kernel, rfl, .absent ?_⟩
    rintro slot content (_ | ⟨_, _ | ⟨_, _ | ⟨_, ⟨⟩⟩⟩⟩) <;> decide

end RecordStore

import RecordStore.Proofs.Record.Cell

/-! The children of a record: each text and each byte vector, written in front of the table one
behind the other. -/
namespace RecordStore

open Buffer

namespace Buffer

/-- Data with its length in front. -/
def frame (data : ByteArray) : ByteArray := LittleEndian.bytes 4 data.size ++ data

@[simp] theorem size_frame (data : ByteArray) : (frame data).size = 4 + data.size := by
  simp [frame]

/-- The data of a child, in front of a table that stands at a position. -/
structure Lodged (position : Nat) (whole data : ByteArray) (offset : Offset) : Prop where
  header_le : headerSize ≤ offset.position.toNat
  end_le : offset.position.toNat + (4 + data.size) ≤ position
  size_lt : data.size < UInt32.size
  lies : Lies (frame data) offset.position.toNat whole

namespace Lodged

variable {position : Nat} {whole data : ByteArray} {offset : Offset}

theorem move {position' : Nat} {whole' : ByteArray} (h : Lodged position whole data offset)
    (hp : position ≤ position')
    (hl : ∀ part p, headerSize ≤ p → Lies part p whole → Lies part p whole') :
    Lodged position' whole' data offset :=
  ⟨h.header_le, Nat.le_trans h.end_le hp, h.size_lt, hl _ _ h.header_le h.lies⟩

theorem move_all {position' : Nat} {whole' : ByteArray} {payload : Option ByteArray}
    {child : Option Offset} (h : Option.Rel (Lodged position whole) payload child)
    (hp : position ≤ position')
    (hl : ∀ part p, headerSize ≤ p → Lies part p whole → Lies part p whole') :
    Option.Rel (Lodged position' whole') payload child := by
  cases h with
  | none => exact .none
  | some h => exact .some (h.move hp hl)

theorem couldHold {b : Builder} (h : Lodged b.bytes.size b.bytes data offset) :
    b.couldHold offset = true := by
  have := h.header_le
  have := h.end_le
  rw [Builder.couldHold, Bool.and_eq_true, decide_eq_true_eq, decide_eq_true_eq]
  omega

end Lodged

namespace Builder

variable {b b' : Builder} {region : Region} {data : ByteArray} {offset : Offset}

/-- When a child can be written, and what is written: its data, framed. -/
theorem child_eq_ok (ht : b.table = none) :
    b.child region data = .ok (offset, b') ↔
      data.size < UInt32.size ∧ b.bytes.size < UInt32.size ∧
        offset = ⟨UInt32.ofNat b.bytes.size⟩ ∧ b' = { b with bytes := b.bytes ++ frame data } := by
  simp only [child, ht, Option.isSome_none, Bool.false_eq_true, if_false, pure_eq_ok,
    throw_eq_error, error_bind]
  rw [ite_error_eq_ok, bind_eq_ok, Nat.not_le]
  constructor
  · rintro ⟨hd, o, ho, he⟩
    obtain ⟨hb, rfl⟩ := offset?_eq_ok.mp ho
    cases he
    exact ⟨hd, hb, rfl, by rw [frame, ByteArray.append_assoc]⟩
  · rintro ⟨hd, hb, rfl, rfl⟩
    exact ⟨hd, _, offset?_eq_ok.mpr ⟨hb, rfl⟩, by rw [frame, ByteArray.append_assoc]⟩

theorem lodged_of_child (ht : b.table = none) (hb : headerSize ≤ b.bytes.size)
    (h : b.child region data = .ok (offset, b')) :
    Lodged b'.bytes.size b'.bytes data offset := by
  obtain ⟨hd, hs, rfl, rfl⟩ := (child_eq_ok ht).mp h
  have ho : (UInt32.ofNat b.bytes.size).toNat = b.bytes.size := UInt32.toNat_ofNat_of_lt' hs
  refine ⟨by rw [ho]; exact hb, by rw [ho]; simp, hd, ?_⟩
  rw [ho]
  exact ⟨b.bytes, .empty, by simp, rfl⟩

end Builder

end Buffer

namespace Value

variable {b b' : Builder} {child : Option Offset}

theorem writeChild_eq (v : Value) (b : Builder) :
    ∃ region, v.writeChild b =
      match v.payload? with
      | none => .ok (none, b)
      | some data => (b.child region data).map fun (offset, b) => (some offset, b) := by
  cases v with
  | bytes d => exact ⟨.byteVector, rfl⟩
  | _ => exact ⟨.string, rfl⟩

/-- The bytes that values take up outside the table. -/
def outside (values : List Value) : ByteArray := chain ((values.filterMap payload?).map frame)

theorem outside_cons (v : Value) (values : List Value) :
    outside (v :: values) = outside [v] ++ outside values := by
  simp only [outside, List.filterMap_cons, List.filterMap_nil]
  cases v.payload? <;> simp

theorem of_writeChild {v : Value} (ht : b.table = none) (hb : headerSize ≤ b.bytes.size)
    (h : v.writeChild b = .ok (child, b')) :
    b' = { b with bytes := b.bytes ++ outside [v] } ∧
      Option.Rel (Lodged b'.bytes.size b'.bytes) v.payload? child := by
  obtain ⟨region, hw⟩ := v.writeChild_eq b
  rw [hw] at h
  cases hp : v.payload? with
  | none =>
    rw [hp] at h
    cases h
    exact ⟨by simp [outside, hp], .none⟩
  | some data =>
    rw [hp] at h
    obtain ⟨⟨offset, next⟩, hc, he⟩ := map_eq_ok.mp h
    cases he
    have hl := Builder.lodged_of_child ht hb hc
    obtain ⟨-, -, rfl, rfl⟩ := (Builder.child_eq_ok ht).mp hc
    exact ⟨by simp [outside, hp], .some hl⟩

end Value

namespace Binding

variable {b b' : Builder}

/-- The children of values lie behind each other, and each value has its own. -/
theorem of_writeChildren {values : List Value} {children : List (Option Offset)}
    (ht : b.table = none) (hb : headerSize ≤ b.bytes.size)
    (h : writeChildren values b = .ok (children, b')) :
    b' = { b with bytes := b.bytes ++ Value.outside values } ∧
      children.length = values.length ∧
      ∀ entry ∈ values.zip children,
        Option.Rel (Lodged b'.bytes.size b'.bytes) entry.1.payload? entry.2 := by
  induction values generalizing b children with
  | nil =>
    cases h
    simp [Value.outside]
  | cons v values ih =>
    rw [writeChildren] at h
    obtain ⟨⟨child, next⟩, hc, h⟩ := bind_eq_ok.mp h
    obtain ⟨⟨rest, last⟩, hr, h⟩ := bind_eq_ok.mp h
    cases h
    obtain ⟨rfl, hl⟩ := Value.of_writeChild ht hb hc
    have hsize : headerSize ≤ (b.bytes ++ Value.outside [v]).size := by
      rw [ByteArray.size_append]
      omega
    obtain ⟨rfl, hlen, hrest⟩ :=
      @ih { b with bytes := b.bytes ++ Value.outside [v] } rest ht hsize hr
    refine ⟨?_, by simp [hlen], ?_⟩
    · rw [Value.outside_cons v values, ByteArray.append_assoc]
    · intro entry he
      rw [List.zip_cons_cons, List.mem_cons] at he
      rcases he with rfl | he
      · -- What the later values write stands behind this child.
        refine Lodged.move_all hl (by simp) ?_
        intro part p _ hp
        exact hp.append_right _
      · exact hrest entry he

theorem writeChildren_ok {values : List Value} (ht : b.table = none)
    (hs : b.bytes.size + (Value.outside values).size < UInt32.size) :
    ∃ children, writeChildren values b =
      .ok (children, { b with bytes := b.bytes ++ Value.outside values }) := by
  induction values generalizing b with
  | nil => exact ⟨[], by simp [writeChildren, Value.outside]⟩
  | cons v values ih =>
    rw [Value.outside_cons v values, ByteArray.size_append] at hs
    have hv : ∃ child, v.writeChild b =
        .ok (child, { b with bytes := b.bytes ++ Value.outside [v] }) := by
      obtain ⟨region, hw⟩ := v.writeChild_eq b
      rw [hw]
      cases hp : v.payload? with
      | none => exact ⟨none, by simp [Value.outside, hp]⟩
      | some data =>
        have hsize : (Value.outside [v]).size = 4 + data.size := by simp [Value.outside, hp]
        have hc := (@Builder.child_eq_ok b _ region data _ ht).mpr
          ⟨by omega, by omega, rfl, rfl⟩
        refine ⟨some ⟨UInt32.ofNat b.bytes.size⟩, ?_⟩
        simp only [hc]
        simp [Except.map, Value.outside, hp]
    obtain ⟨child, hv⟩ := hv
    obtain ⟨children, hr⟩ := @ih { b with bytes := b.bytes ++ Value.outside [v] } ht
      (by rw [ByteArray.size_append]; omega)
    refine ⟨child :: children, ?_⟩
    rw [ByteArray.append_assoc, ← Value.outside_cons] at hr
    rw [writeChildren, hv, ok_bind]
    simp only [hr, ok_bind, pure_eq_ok]

end Binding

end RecordStore

import RecordStore.Buffer.Table
import RecordStore.Proofs.Outcome

/-! Parts of byte arrays at known positions, and what reading finds there. -/
namespace RecordStore.Buffer

/-- The bytes `part` stand in `whole` from a position on. -/
def Lies (part : ByteArray) (position : Nat) (whole : ByteArray) : Prop :=
  ∃ front back, whole = front ++ part ++ back ∧ front.size = position

namespace Lies

variable {part other whole : ByteArray} {position : Nat}

theorem intro (front back : ByteArray) (h : front.size = position) :
    Lies part position (front ++ part ++ back) := ⟨front, back, rfl, h⟩

theorem le_size (h : Lies part position whole) : position + part.size ≤ whole.size := by
  obtain ⟨front, back, rfl, rfl⟩ := h
  simp only [ByteArray.size_append]
  omega

theorem append_right (h : Lies part position whole) (more : ByteArray) :
    Lies part position (whole ++ more) := by
  obtain ⟨front, back, rfl, hf⟩ := h
  refine ⟨front, back ++ more, ?_, hf⟩
  simp [ByteArray.append_assoc]

theorem append_left (h : Lies part position whole) (more : ByteArray) :
    Lies part (more.size + position) (more ++ whole) := by
  obtain ⟨front, back, rfl, hf⟩ := h
  refine ⟨more ++ front, back, ?_, by simp [hf]⟩
  simp [ByteArray.append_assoc]

theorem left (h : Lies (part ++ other) position whole) : Lies part position whole := by
  obtain ⟨front, back, rfl, hf⟩ := h
  refine ⟨front, other ++ back, ?_, hf⟩
  simp [ByteArray.append_assoc]

theorem right (h : Lies (part ++ other) position whole) :
    Lies other (position + part.size) whole := by
  obtain ⟨front, back, rfl, hf⟩ := h
  refine ⟨front ++ part, back, ?_, by simp [hf]⟩
  simp [ByteArray.append_assoc]

theorem trans {inner : ByteArray} {offset : Nat} (hi : Lies inner offset part)
    (h : Lies part position whole) : Lies inner (position + offset) whole := by
  obtain ⟨front, back, rfl, rfl⟩ := hi
  rw [ByteArray.append_assoc] at h
  exact h.right.left

/-- A header of another content leaves everything behind it where it was. -/
theorem replace_header (h : Lies part position whole) (header : ByteArray)
    (hp : header.size ≤ position) :
    Lies part position (header ++ whole.extract header.size whole.size) := by
  obtain ⟨front, back, rfl, rfl⟩ := h
  have hs : (front ++ part ++ back).extract front.size (front ++ part ++ back).size =
      part ++ back := by
    rw [ByteArray.append_assoc]
    exact ByteArray.extract_append_eq_right rfl (by simp)
  have hf : (front ++ part ++ back).extract header.size front.size =
      front.extract header.size front.size := by
    rw [ByteArray.append_assoc, ByteArray.extract_append_size_left]
  refine ⟨header ++ front.extract header.size front.size, back, ?_, ?_⟩
  · rw [ByteArray.extract_eq_extract_append_extract front.size hp (by simp; omega), hs, hf]
    simp only [ByteArray.append_assoc]
  · rw [ByteArray.size_append, ByteArray.size_extract]
    omega

end Lies

theorem slice_of_lies {part whole : ByteArray} {position : Nat} (h : Lies part position whole) :
    slice whole position part.size = .ok part := by
  have hle := h.le_size
  obtain ⟨front, back, rfl, rfl⟩ := h
  have he := ByteArray.extract_append_size_add (a := front) (b := part ++ back) (i := 0)
    (j := part.size)
  rw [Nat.add_zero] at he
  rw [slice, if_pos hle, ByteArray.append_assoc, he, ByteArray.extract_append_eq_left rfl]

/-- Reading a written number gives the number, if the width is enough for it. -/
theorem number_of_lies {whole : ByteArray} {position width n : Nat}
    (h : Lies (LittleEndian.bytes width n) position whole) (hn : n < LittleEndian.capacity width) :
    number width whole position = .ok n := by
  have hs := slice_of_lies h
  rw [LittleEndian.size_bytes] at hs
  rw [number, hs]
  simp [LittleEndian.value_bytes, Nat.mod_eq_of_lt hn]

/-- Byte arrays one behind the other. -/
def chain : List ByteArray → ByteArray
  | [] => .empty
  | part :: rest => part ++ chain rest

@[simp] theorem chain_nil : chain [] = .empty := rfl

@[simp] theorem chain_cons (part : ByteArray) (rest : List ByteArray) :
    chain (part :: rest) = part ++ chain rest := rfl

theorem chain_append (xs ys : List ByteArray) : chain (xs ++ ys) = chain xs ++ chain ys := by
  induction xs with
  | nil => simp
  | cons x xs ih => simp [ih, ByteArray.append_assoc]

theorem size_chain_map {α : Type} {f : α → ByteArray} {width : Nat}
    (h : ∀ x, (f x).size = width) (xs : List α) :
    (chain (xs.map f)).size = width * xs.length := by
  induction xs with
  | nil => simp
  | cons x xs ih =>
    rw [List.map_cons, chain_cons, ByteArray.size_append, h, ih, List.length_cons, Nat.mul_succ,
      Nat.add_comm]

theorem lies_chain_map {α : Type} {f : α → ByteArray} {width : Nat} (h : ∀ x, (f x).size = width)
    {xs : List α} {i : Nat} {x : α} (hx : xs[i]? = some x) :
    Lies (f x) (width * i) (chain (xs.map f)) := by
  obtain ⟨hi, rfl⟩ := List.getElem?_eq_some_iff.mp hx
  have he : xs.map f = (xs.take i).map f ++ f xs[i] :: (xs.drop (i + 1)).map f := by
    rw [← List.map_cons, ← List.drop_eq_getElem_cons, ← List.map_append, List.take_append_drop]
  have hs := size_chain_map h (xs.take i)
  rw [List.length_take_of_le (Nat.le_of_lt hi)] at hs
  rw [he, chain_append, chain_cons, ← ByteArray.append_assoc]
  exact .intro _ _ hs

end RecordStore.Buffer

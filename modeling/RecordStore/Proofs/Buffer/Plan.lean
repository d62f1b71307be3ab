import Mathlib.Data.Fin.Tuple.Basic
import RecordStore.Proofs.Buffer.Session

/-! Buffers of one table and its children, planned as a whole: the calls that build them, and the
bytes that the format gives them, with every position counted from the sizes of what stands in
front. -/
namespace RecordStore.Buffer

/-- What stands in front of a table: a text or bytes. -/
inductive Child
  | text (value : String)
  | bytes (value : ByteArray)

namespace Child

def data : Child → ByteArray
  | text s => s.toUTF8
  | bytes d => d

/-- How many bytes the first children take up, each with its length. -/
def sizeTo (children : List Child) (i : Nat) : Nat :=
  ((children.take i).map fun child => 4 + child.data.size).sum

def create (b : Builder) : Child → Except BuildError (Offset × Builder)
  | text s => b.string s
  | bytes d => b.byteVector d

/-- Creates children one after the other, and hands out the offset of each. -/
def createAll : (children : List Child) → Builder →
    Except BuildError ((Fin children.length → Offset) × Builder)
  | [], b => .ok (Fin.elim0, b)
  | child :: children, b => do
    let (offset, b) ← child.create b
    let (offsets, b) ← createAll children b
    return (Fin.cons offset offsets, b)

end Child

/-- What a slot is filled with: a value, unless readers fall back to it, or one of some children. -/
inductive Filling (count : Nat)
  | scalar {α : Type} [Scalar α] (value default : α)
  | child (index : Fin count)

namespace Filling

variable {count : Nat}

def write (offsets : Fin count → Offset) (b : Builder) :
    UInt16 × Filling count → Except BuildError Builder
  | (slot, scalar value default) => b.push slot value default
  | (slot, child index) => b.pushOffset slot (offsets index)

/-- Whether the filling takes up bytes in the table. -/
def isStored : Filling count → Bool
  | scalar value default => !Scalar.same value default
  | child _ => true

def width : Filling count → Nat
  | @scalar _ α _ _ _ => Scalar.width α
  | child _ => 4

end Filling

/-- The children of a buffer in the order they are created, the slots of its table, and what is
pushed into them, in order. -/
structure Plan where
  children : List Child
  slotCount : UInt32
  pushes : List (UInt16 × Filling children.length)

namespace Plan

variable (p : Plan)

/-- Creates the children, opens the table, makes the pushes and finishes. -/
def build : Except BuildError ByteArray := do
  let (offsets, b) ← Child.createAll p.children .new
  let b ← b.startTable p.slotCount
  let b ← p.pushes.foldlM (Filling.write offsets) b
  b.finish.1

/-- Where a child stands, with its length in front. -/
def childPosition (i : Nat) : Nat := headerSize + Child.sizeTo p.children i

def directorySize : Nat := 4 + 2 * p.slotCount.toNat

/-- The directory stands behind the last child, and the table behind the directory. -/
def tablePosition : Nat := p.childPosition p.children.length + p.directorySize

/-- The pushes that take up bytes in the table, in order. -/
def fields : List (UInt16 × Filling p.children.length) := p.pushes.filter (·.2.isStored)

/-- How far a field is from the start of the table. -/
def distance (i : Nat) : Nat := 4 + ((p.fields.take i).map (·.2.width)).sum

def tableSize : Nat := p.distance p.fields.length

/-- What the directory says of a slot: how far its field is from the start of the table, or zero. -/
def entry (slot : Nat) : Nat :=
  ((p.fields.findIdx? (·.1.toNat == slot)).map p.distance).getD 0

/-- A field for a child is how far the child is in front of it. -/
def fieldBytes (i : Nat) : Filling p.children.length → ByteArray
  | @Filling.scalar _ _ _ value _ => Scalar.bytes value
  | .child index =>
    LittleEndian.bytes 4 (p.tablePosition + p.distance i - p.childPosition index)

def childrenBytes : ByteArray :=
  chain (p.children.map fun child => LittleEndian.bytes 4 child.data.size ++ child.data)

def directoryBytes : ByteArray :=
  LittleEndian.bytes 2 p.directorySize ++ LittleEndian.bytes 2 p.tableSize ++
    chain ((List.range p.slotCount.toNat).map fun slot => LittleEndian.bytes 2 (p.entry slot))

def tableBytes : ByteArray :=
  LittleEndian.bytes 4 p.directorySize ++
    chain (p.fields.mapIdx fun i field => p.fieldBytes i field.2)

/-- The whole buffer, with the position of the table in front. -/
def bytes : ByteArray :=
  LittleEndian.bytes 4 p.tablePosition ++ p.childrenBytes ++ p.directoryBytes ++ p.tableBytes

/-- The slots of a plan are there, and each of its sizes and positions fits its width. -/
structure Fits : Prop where
  slotCount_le : p.slotCount.toNat ≤ maxSlots
  slot_lt : ∀ push ∈ p.pushes, push.1.toNat < p.slotCount.toNat
  child_lt : ∀ child ∈ p.children, child.data.size < UInt32.size
  tableSize_lt : p.tableSize < UInt16.size
  tablePosition_lt : p.tablePosition < UInt32.size
  reach_lt : ∀ (i : Nat) (slot : UInt16) (index : Fin p.children.length),
    p.fields[i]? = some (slot, .child index) →
      p.tablePosition + p.distance i - p.childPosition index < UInt32.size

end Plan

namespace Child

variable {b b' : Builder}

theorem create_eq_ok {child : Child} {offset : Offset} (ht : b.table = none) :
    child.create b = .ok (offset, b') ↔
      child.data.size < UInt32.size ∧ b.bytes.size < UInt32.size ∧
        offset = ⟨UInt32.ofNat b.bytes.size⟩ ∧
        b' = { b with bytes := b.bytes ++ frame child.data } := by
  cases child with
  | text s => exact Builder.child_eq_ok ht
  | bytes d => exact Builder.child_eq_ok ht

@[simp] theorem sizeTo_zero (children : List Child) : sizeTo children 0 = 0 := rfl

@[simp] theorem sizeTo_succ (child : Child) (children : List Child) (i : Nat) :
    sizeTo (child :: children) (i + 1) = 4 + child.data.size + sizeTo children i := by
  simp [sizeTo]

theorem size_frames (children : List Child) :
    (chain (children.map fun child => frame child.data)).size =
      sizeTo children children.length := by
  induction children with
  | nil => rfl
  | cons child children ih => simp [ih]

/-- The offset of each child, if the first stands at the given position. -/
def offsetsFrom (position : Nat) (children : List Child) (i : Fin children.length) : Offset :=
  ⟨UInt32.ofNat (position + sizeTo children i)⟩

theorem offsetsFrom_cons (position : Nat) (child : Child) (children : List Child) :
    offsetsFrom position (child :: children) =
      Fin.cons ⟨UInt32.ofNat position⟩
        (offsetsFrom (position + (4 + child.data.size)) children) := by
  funext i
  refine Fin.cases ?_ ?_ i
  · simp [offsetsFrom]
  · intro i
    simp [offsetsFrom, Nat.add_assoc]

theorem sizeTo_add_le (children : List Child) (i : Fin children.length) :
    sizeTo children i + 4 ≤ sizeTo children children.length := by
  induction children with
  | nil => exact i.elim0
  | cons child children ih =>
    have hl : sizeTo (child :: children) (child :: children).length =
        4 + child.data.size + sizeTo children children.length := sizeTo_succ ..
    rw [hl]
    refine Fin.cases ?_ ?_ i
    · rw [Fin.val_zero, sizeTo_zero]
      omega
    · intro i
      rw [Fin.val_succ, sizeTo_succ]
      have := ih i
      omega

/-- Each child is created where those in front of it end. -/
theorem of_createAll {children : List Child} {offsets : Fin children.length → Offset}
    (ht : b.table = none) (h : createAll children b = .ok (offsets, b')) :
    (∀ child ∈ children, child.data.size < UInt32.size) ∧
      (∀ i : Fin children.length, b.bytes.size + sizeTo children i < UInt32.size) ∧
      offsets = offsetsFrom b.bytes.size children ∧
      b' = { b with bytes := b.bytes ++ chain (children.map fun child => frame child.data) } := by
  induction children generalizing b with
  | nil =>
    cases h
    exact ⟨by simp, fun i => i.elim0, funext fun i => i.elim0, by simp⟩
  | cons child children ih =>
    rw [createAll, bind_eq_ok] at h
    obtain ⟨⟨offset, next⟩, hc, h⟩ := h
    obtain ⟨⟨rest, last⟩, hr, h⟩ := bind_eq_ok.mp h
    cases h
    obtain ⟨hd, hb, rfl, rfl⟩ := (create_eq_ok ht).mp hc
    obtain ⟨hall, hpos, rfl, rfl⟩ :=
      @ih { b with bytes := b.bytes ++ frame child.data } rest ht hr
    simp only [ByteArray.size_append, size_frame, Nat.add_assoc] at hpos
    refine ⟨List.forall_mem_cons.mpr ⟨hd, hall⟩, Fin.forall_fin_succ.mpr ⟨hb, ?_⟩, ?_,
      by simp [ByteArray.append_assoc]⟩
    · intro i
      rw [Fin.val_succ, sizeTo_succ, Nat.add_assoc]
      exact hpos i
    · rw [offsetsFrom_cons, ByteArray.size_append, size_frame]

theorem createAll_eq_ok {children : List Child} (ht : b.table = none)
    (hd : ∀ child ∈ children, child.data.size < UInt32.size)
    (hs : b.bytes.size + sizeTo children children.length < UInt32.size) :
    createAll children b = .ok (offsetsFrom b.bytes.size children,
      { b with bytes := b.bytes ++ chain (children.map fun child => frame child.data) }) := by
  induction children generalizing b with
  | nil =>
    have hnone : offsetsFrom b.bytes.size [] = Fin.elim0 := funext fun i => i.elim0
    simp [createAll, hnone]
  | cons child children ih =>
    rw [List.forall_mem_cons] at hd
    rw [List.length_cons, sizeTo_succ] at hs
    have hc := (create_eq_ok ht).mpr ⟨hd.1, by omega, rfl, rfl⟩
    have hr := @ih { b with bytes := b.bytes ++ frame child.data } ht hd.2
      (by rw [ByteArray.size_append, size_frame]; omega)
    rw [createAll, hc, ok_bind, offsetsFrom_cons]
    simp [hr, ByteArray.append_assoc]

end Child

namespace Filling

variable {count : Nat} {offsets : Fin count → Offset} {b b' : Builder} {t : OpenTable}

/-- The cell that the filling of a slot takes up. -/
def cell (offsets : Fin count → Offset) : Filling count → Cell
  | @scalar _ _ _ value _ => .inline (Scalar.bytes value)
  | child index => .child (offsets index)

@[simp] theorem width_cell (offsets : Fin count → Offset) (filling : Filling count) :
    (filling.cell offsets).width = filling.width := by
  cases filling with
  | scalar value default => exact Scalar.size_bytes value
  | child index => rfl

/-- The cell that a push adds to the table, if it adds one. -/
def cell? (offsets : Fin count → Offset) (filling : Filling count) : Option Cell :=
  if filling.isStored then some (filling.cell offsets) else none

theorem cell?_scalar {α : Type} [Scalar α] (value default : α) :
    cell? offsets (.scalar value default) = scalarCell value default := by
  rw [cell?, scalarCell, isStored]
  cases Scalar.same value default <;> rfl

theorem write_eq {push : UInt16 × Filling count} (ht : b.table = some t)
    (hc : t.check push.1 = .ok ()) (ho : ∀ i, b.couldHold (offsets i) = true) :
    write offsets b push =
      .ok { b with table := some (t.put push.1 (push.2.cell? offsets)) } := by
  obtain ⟨slot, filling⟩ := push
  cases filling with
  | scalar value default =>
    rw [cell?_scalar]
    exact Builder.push_eq ht hc value default
  | child index => exact Builder.pushOffset_eq ht hc (ho index)

theorem check_of_write {push : UInt16 × Filling count} (ht : b.table = some t)
    (h : write offsets b push = .ok b') : t.check push.1 = .ok () := by
  obtain ⟨slot, filling⟩ := push
  obtain ⟨t', ht', hc⟩ : ∃ t', b.table = some t' ∧ t'.check slot = .ok () := by
    cases filling with
    | scalar value default =>
      obtain ⟨t', ht', hc, -⟩ := Builder.of_push h
      exact ⟨t', ht', hc⟩
    | child index =>
      obtain ⟨t', ht', hc, -⟩ := Builder.of_pushOffset h
      exact ⟨t', ht', hc⟩
  rw [ht, Option.some.injEq] at ht'
  rwa [ht']

/-- The fields that pushes add to a table. -/
def cells (offsets : Fin count → Offset) (pushes : List (UInt16 × Filling count)) :
    List (UInt16 × Cell) :=
  (pushes.filter (·.2.isStored)).map fun push => (push.1, push.2.cell offsets)

theorem fields_put_cell? (t : OpenTable) (push : UInt16 × Filling count)
    (pushes : List (UInt16 × Filling count)) :
    (t.put push.1 (push.2.cell? offsets)).fields ++ (cells offsets pushes).toArray =
      t.fields ++ (cells offsets (push :: pushes)).toArray := by
  rw [cells, cells, List.filter_cons, cell?]
  by_cases hs : push.2.isStored
  · simp [hs, OpenTable.put, OpenTable.push]
  · simp [hs, OpenTable.put]

/-- Pushes into slots of their own are made if the table has the slots. -/
theorem foldlM_write {pushes : List (UInt16 × Filling count)} (ht : b.table = some t)
    (ho : ∀ i, b.couldHold (offsets i) = true)
    (nodup : (t.fields.toList.map (·.1) ++ pushes.map (·.1)).Nodup) :
    pushes.foldlM (write offsets) b = .ok b' ↔
      (∀ push ∈ pushes, push.1 < t.slotCount) ∧
        b' = { b with
          table := some ⟨t.slotCount, t.fields ++ (cells offsets pushes).toArray⟩ } := by
  -- The slots of the fields so far and of the pushes to come are distinct all along.
  induction pushes generalizing b t with
  | nil =>
    rw [List.foldlM_nil, pure_eq_ok, Except.ok.injEq, eq_comm]
    simp [cells, ← ht]
  | cons push pushes ih =>
    obtain ⟨hnew, hrest⟩ := OpenTable.nodup_put (push.2.cell? offsets) nodup
    have hnext := @ih { b with table := some (t.put push.1 (push.2.cell? offsets)) } _ rfl ho hrest
    simp only [OpenTable.slotCount_put, fields_put_cell?] at hnext
    rw [List.foldlM_cons, List.forall_mem_cons, and_assoc]
    constructor
    · intro h
      obtain ⟨next, hw, h⟩ := bind_eq_ok.mp h
      have hc := check_of_write ht hw
      rw [write_eq ht hc ho] at hw
      cases hw
      exact ⟨(OpenTable.of_check hc).1, hnext.mp h⟩
    · rintro ⟨hs, h⟩
      rw [write_eq ht (OpenTable.check_eq_ok hs hnew) ho, ok_bind]
      exact hnext.mpr h

end Filling

end RecordStore.Buffer

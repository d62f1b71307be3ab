import Mathlib.Algebra.GroupWithZero.Nat
import RecordStore.Proofs.Buffer.Region

/-! How a table is laid out: its fields one behind the other in the order they were written, and a
directory with the distance of each. -/
namespace RecordStore.Buffer

namespace Cell

@[simp] theorem size_bytesAt (cell : Cell) (position : Nat) :
    (cell.bytesAt position).size = cell.width := by
  cases cell <;> simp [bytesAt, width]

/-- A reference to a child fits its 32 bits if the field stands at the position. -/
def InReach (position : Nat) : Cell → Prop
  | inline _ => True
  | child offset => position - offset.position.toNat < UInt32.size

end Cell

/-- Bytes that fields take up together. -/
def totalWidth (fields : List (UInt16 × Cell)) : Nat := (fields.map (·.2.width)).sum

/-- Fields one behind the other in a table at a position; the first has the given distance from the
start of the table. -/
def layout (position : Nat) : Nat → List (UInt16 × Cell) → ByteArray
  | _, [] => .empty
  | distance, (_, cell) :: rest =>
    cell.bytesAt (position + distance) ++ layout position (distance + cell.width) rest

/-- The distance of the field in a slot. -/
def distance? (slot : UInt16) : Nat → List (UInt16 × Cell) → Option Nat
  | _, [] => none
  | distance, (s, cell) :: rest =>
    if s = slot then some distance else distance? slot (distance + cell.width) rest

/-- Every reference among the fields fits its 32 bits. -/
def AllInReach (position : Nat) : Nat → List (UInt16 × Cell) → Prop
  | _, [] => True
  | distance, (_, cell) :: rest =>
    cell.InReach (position + distance) ∧ AllInReach position (distance + cell.width) rest

/-- The distances of fields, entered under their slots. -/
def enter : Nat → List (UInt16 × Cell) → Array UInt16 → Array UInt16
  | _, [], distances => distances
  | distance, (slot, cell) :: rest, distances =>
    enter (distance + cell.width) rest
      (distances.setIfInBounds slot.toNat (UInt16.ofNat distance))

section

variable {fields : List (UInt16 × Cell)} {position distance : Nat} {slot : UInt16}

@[simp] theorem totalWidth_cons (slot : UInt16) (cell : Cell) (rest : List (UInt16 × Cell)) :
    totalWidth ((slot, cell) :: rest) = cell.width + totalWidth rest := rfl

@[simp] theorem size_layout : (layout position distance fields).size = totalWidth fields := by
  induction fields generalizing distance with
  | nil => rfl
  | cons field rest ih => simp [layout, totalWidth, ih]

@[simp] theorem size_enter {distances : Array UInt16} :
    (enter distance fields distances).size = distances.size := by
  induction fields generalizing distance distances with
  | nil => rfl
  | cons field rest ih => simp [enter, ih]

/-- Distances are counted from where the fields begin. -/
theorem distance?_bounds {d : Nat} (h : distance? slot distance fields = some d) :
    distance ≤ d ∧ d ≤ distance + totalWidth fields := by
  induction fields generalizing distance with
  | nil => simp [distance?] at h
  | cons field rest ih =>
    obtain ⟨s, cell⟩ := field
    rw [distance?] at h
    rw [totalWidth_cons]
    by_cases hs : s = slot
    · rw [if_pos hs, Option.some.injEq] at h
      omega
    · rw [if_neg hs] at h
      have := ih h
      omega

theorem distance?_eq_none : distance? slot distance fields = none ↔ slot ∉ fields.map (·.1) := by
  induction fields generalizing distance with
  | nil => simp [distance?]
  | cons field rest ih =>
    obtain ⟨s, cell⟩ := field
    by_cases hs : s = slot
    · simp [distance?, hs]
    · have hs' : ¬ slot = s := fun h => hs h.symm
      simp [distance?, hs, hs', ih]

theorem exists_distance {cell : Cell} (h : (slot, cell) ∈ fields)
    (nodup : (fields.map (·.1)).Nodup) :
    ∃ d, distance? slot distance fields = some d ∧ distance ≤ d ∧
      Lies (cell.bytesAt (position + d)) (d - distance) (layout position distance fields) ∧
      (AllInReach position distance fields → cell.InReach (position + d)) := by
  induction fields generalizing distance with
  | nil => simp at h
  | cons field rest ih =>
    obtain ⟨s, c⟩ := field
    simp only [List.map_cons, List.nodup_cons] at nodup
    rcases List.mem_cons.mp h with he | ht
    · cases he
      refine ⟨distance, by simp [distance?], Nat.le_refl _, ?_, fun hr => hr.1⟩
      rw [layout, Nat.sub_self]
      exact ⟨.empty, layout position (distance + cell.width) rest, by simp, rfl⟩
    · have hs : s ≠ slot := by
        rintro rfl
        exact nodup.1 (List.mem_map_of_mem (f := (·.1)) ht)
      obtain ⟨d, hd, hle, hl, hr⟩ := @ih (distance + c.width) ht nodup.2
      refine ⟨d, by rw [distance?, if_neg hs, hd], by omega, ?_, fun h => hr h.2⟩
      have hm := hl.append_left (c.bytesAt (position + distance))
      rw [Cell.size_bytesAt, show c.width + (d - (distance + c.width)) = d - distance by omega]
        at hm
      exact hm

/-- Each slot of the directory holds the distance of its field, or what it held before. -/
theorem getElem?_enter {distances : Array UInt16} (nodup : (fields.map (·.1)).Nodup)
    (h : slot.toNat < distances.size) :
    (enter distance fields distances)[slot.toNat]? =
      match distance? slot distance fields with
      | some d => some (UInt16.ofNat d)
      | none => distances[slot.toNat]? := by
  induction fields generalizing distance distances with
  | nil => rfl
  | cons field rest ih =>
    obtain ⟨s, cell⟩ := field
    simp only [List.map_cons, List.nodup_cons] at nodup
    rw [enter, ih nodup.2 (by simpa using h), distance?]
    by_cases hs : s = slot
    · subst hs
      rw [distance?_eq_none.mpr nodup.1]
      simp [h]
    · have hs' : s.toNat ≠ slot.toNat := fun e => hs (UInt16.toNat_inj.mp e)
      simp [hs, hs']

/-- Each field stands behind the widths of those in front of it. -/
theorem layout_eq_chain : layout position distance fields =
    chain (fields.mapIdx fun i field =>
      field.2.bytesAt (position + (distance + totalWidth (fields.take i)))) := by
  induction fields generalizing distance with
  | nil => rfl
  | cons field rest ih =>
    obtain ⟨slot, cell⟩ := field
    rw [layout, ih, List.mapIdx_cons, chain_cons]
    simp only [List.take_succ_cons, totalWidth_cons, Nat.add_assoc]
    rfl

theorem distance?_eq_findIdx? : distance? slot distance fields =
    (fields.findIdx? (·.1 == slot)).map fun i => distance + totalWidth (fields.take i) := by
  induction fields generalizing distance with
  | nil => rfl
  | cons field rest ih =>
    obtain ⟨s, cell⟩ := field
    rw [distance?, List.findIdx?_cons]
    by_cases hs : s = slot
    · simp [hs, totalWidth]
    · simp [hs, ih, Function.comp_def, Nat.add_assoc]

theorem allInReach_iff : AllInReach position distance fields ↔
    ∀ (i : Nat) (field : UInt16 × Cell), fields[i]? = some field →
      field.2.InReach (position + (distance + totalWidth (fields.take i))) := by
  induction fields generalizing distance with
  | nil => simp [AllInReach]
  | cons field rest ih =>
    rw [AllInReach, ih]
    constructor
    · rintro ⟨hfirst, hrest⟩ i next hi
      cases i with
      | zero =>
        cases hi
        exact hfirst
      | succ i =>
        rw [List.take_succ_cons, totalWidth_cons, ← Nat.add_assoc distance]
        exact hrest i next hi
    · intro hall
      refine ⟨hall 0 field rfl, ?_⟩
      intro i next hi
      rw [Nat.add_assoc distance]
      exact hall (i + 1) next hi

end

namespace Builder

variable {position : Nat} {body body' : Body}

theorem add_eq_ok {slot : UInt16} {cell : Cell} :
    Body.add position body (slot, cell) = .ok body' ↔
      body.bytes.size < UInt16.size ∧ cell.InReach (position + body.bytes.size) ∧
        body' = ⟨body.bytes ++ cell.bytesAt (position + body.bytes.size),
          body.distances.setIfInBounds slot.toNat (UInt16.ofNat body.bytes.size)⟩ := by
  rw [eq_comm (a := body')]
  cases cell with
  | inline bytes => simp [Body.add, ite_error_eq_ok, Cell.InReach]
  | child offset => simp [Body.add, ite_error_eq_ok, Cell.InReach]

theorem of_foldlM_add {fields : List (UInt16 × Cell)}
    (h : fields.foldlM (Body.add position) body = .ok body') :
    AllInReach position body.bytes.size fields ∧
      body' = ⟨body.bytes ++ layout position body.bytes.size fields,
        enter body.bytes.size fields body.distances⟩ := by
  induction fields generalizing body with
  | nil =>
    cases h
    simp [AllInReach, layout, enter]
  | cons field rest ih =>
    obtain ⟨slot, cell⟩ := field
    rw [List.foldlM_cons, bind_eq_ok] at h
    obtain ⟨next, hn, h⟩ := h
    obtain ⟨-, hr, rfl⟩ := add_eq_ok.mp hn
    obtain ⟨ha, rfl⟩ := ih h
    simp only [ByteArray.size_append, Cell.size_bytesAt] at ha ⊢
    exact ⟨⟨hr, ha⟩, by simp [layout, enter, ByteArray.append_assoc]⟩

/-- Fields can be added if the distances of all of them fit 16 bits and their references fit. -/
theorem foldlM_add {fields : List (UInt16 × Cell)}
    (hs : body.bytes.size + totalWidth fields < UInt16.size)
    (hr : AllInReach position body.bytes.size fields) :
    fields.foldlM (Body.add position) body =
      .ok ⟨body.bytes ++ layout position body.bytes.size fields,
        enter body.bytes.size fields body.distances⟩ := by
  induction fields generalizing body with
  | nil => simp [layout, enter]
  | cons field rest ih =>
    obtain ⟨slot, cell⟩ := field
    rw [totalWidth_cons] at hs
    have hn := (@add_eq_ok position body _ slot cell).mpr ⟨by omega, hr.1, rfl⟩
    rw [List.foldlM_cons, hn, ok_bind, ih]
    · simp [layout, enter, ByteArray.append_assoc]
    · simp only [ByteArray.size_append, Cell.size_bytesAt]
      omega
    · simpa using hr.2

/-- A field that begins beyond 16 bits cannot be added. -/
theorem add_tooLarge {field : UInt16 × Cell} (h : UInt16.size ≤ body.bytes.size) :
    Body.add position body field = .error (.tooLarge .table body.bytes.size) := by
  rw [Body.add, if_pos h]
  rfl

/-- Fields whose references fit are all added, or one of them begins beyond 16 bits. -/
theorem foldlM_add_cases {fields : List (UInt16 × Cell)}
    (hr : AllInReach position body.bytes.size fields) :
    fields.foldlM (Body.add position) body =
        .ok ⟨body.bytes ++ layout position body.bytes.size fields,
          enter body.bytes.size fields body.distances⟩ ∨
      ∃ length, UInt16.size ≤ length ∧
        fields.foldlM (Body.add position) body = .error (.tooLarge .table length) := by
  induction fields generalizing body with
  | nil => exact .inl (by simp [layout, enter])
  | cons field rest ih =>
    obtain ⟨slot, cell⟩ := field
    rw [List.foldlM_cons]
    by_cases hs : body.bytes.size < UInt16.size
    · have hn := (@add_eq_ok position body _ slot cell).mpr ⟨hs, hr.1, rfl⟩
      rw [hn, ok_bind]
      rcases @ih ⟨body.bytes ++ cell.bytesAt (position + body.bytes.size),
        body.distances.setIfInBounds slot.toNat (UInt16.ofNat body.bytes.size)⟩
        (by simpa using hr.2) with hall | hlong
      · exact .inl (hall.trans (by simp [layout, enter, ByteArray.append_assoc]))
      · exact .inr hlong
    · have hle := Nat.le_of_not_lt hs
      exact .inr ⟨_, hle, by rw [add_tooLarge hle, error_bind]⟩

end Builder

end RecordStore.Buffer

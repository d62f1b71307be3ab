import Mathlib.Data.List.Nodup
import RecordStore.Proofs.Buffer.Plan

/-! Building a plan gives the bytes that the format gives it and no others: the table that its calls
fill is laid out where the plan says. -/
namespace RecordStore.Buffer

namespace Plan

variable {p : Plan}

def offsets (p : Plan) : Fin p.children.length → Offset := Child.offsetsFrom headerSize p.children

/-- The table of a plan before it is closed. -/
def table (p : Plan) : OpenTable :=
  ⟨p.slotCount.toUInt16, (Filling.cells p.offsets p.pushes).toArray⟩

/-- The builder of a plan before it is finished. -/
def written (p : Plan) : Builder := ⟨Builder.new.bytes ++ p.childrenBytes, some p.table, none⟩

theorem size_written (p : Plan) :
    p.written.bytes.size = p.childPosition p.children.length := by
  have h := Child.size_frames p.children
  rw [written, ByteArray.size_append, childrenBytes]
  exact congrArg (headerSize + ·) h

theorem toNat_offsets {i : Fin p.children.length} (h : p.childPosition i < UInt32.size) :
    (p.offsets i).position.toNat = p.childPosition i := UInt32.toNat_ofNat_of_lt' h

theorem toNat_slotCount (h : p.slotCount.toNat ≤ maxSlots) :
    p.table.slotCount.toNat = p.slotCount.toNat := by
  rw [table, UInt32.toNat_toUInt16]
  exact Nat.mod_eq_of_lt (Nat.lt_of_le_of_lt h (by decide))

theorem wellFormed_table (hn : (p.pushes.map (·.1)).Nodup) (hm : p.slotCount.toNat ≤ maxSlots)
    (hs : ∀ push ∈ p.pushes, push.1.toNat < p.slotCount.toNat) : p.table.WellFormed := by
  have hcells : p.table.fields.toList = Filling.cells p.offsets p.pushes := rfl
  refine ⟨?_, ?_, by rw [toNat_slotCount hm]; exact hm⟩
  · rw [hcells, Filling.cells, List.map_map]
    exact hn.sublist (List.filter_sublist.map _)
  · intro field hf
    rw [hcells, Filling.cells, List.mem_map] at hf
    obtain ⟨push, hpush, rfl⟩ := hf
    rw [UInt16.lt_iff_toNat_lt, toNat_slotCount hm]
    exact hs push (List.mem_filter.mp hpush).1

/-- The builder of a plan when its table is open and empty. -/
def opened (p : Plan) : Builder :=
  ⟨Builder.new.bytes ++ p.childrenBytes, some ⟨p.slotCount.toUInt16, #[]⟩, none⟩

theorem couldHold_offsets (h : ∀ i : Fin p.children.length, p.childPosition i < UInt32.size)
    (i : Fin p.children.length) : p.opened.couldHold (p.offsets i) = true := by
  have hle := Child.sizeTo_add_le p.children i
  have hsize : p.opened.bytes.size = p.childPosition p.children.length := p.size_written
  rw [Builder.couldHold, toNat_offsets (h i), hsize, Bool.and_eq_true, decide_eq_true_eq,
    decide_eq_true_eq, childPosition, childPosition]
  omega

theorem foldlM_pushes (hn : (p.pushes.map (·.1)).Nodup) (hm : p.slotCount.toNat ≤ maxSlots)
    (hc : ∀ i : Fin p.children.length, p.childPosition i < UInt32.size) {b : Builder} :
    p.pushes.foldlM (Filling.write p.offsets) p.opened = .ok b ↔
      (∀ push ∈ p.pushes, push.1.toNat < p.slotCount.toNat) ∧ b = p.written := by
  rw [Filling.foldlM_write rfl (couldHold_offsets hc) (by simpa using hn), Array.empty_append]
  simp only [UInt16.lt_iff_toNat_lt]
  rw [show p.slotCount.toUInt16.toNat = p.slotCount.toNat from toNat_slotCount hm]
  rfl

theorem toList_table (p : Plan) : p.table.fields.toList =
    p.fields.map fun push => (push.1, push.2.cell p.offsets) := rfl

theorem distance_eq (p : Plan) (i : Nat) :
    p.distance i = 4 + totalWidth (p.table.fields.toList.take i) := by
  rw [distance, toList_table, ← List.map_take, totalWidth, List.map_map]
  simp only [Function.comp_def, Filling.width_cell]

theorem bodySize_table (p : Plan) : p.table.bodySize = p.tableSize := by
  have hlength : p.fields.length = p.table.fields.toList.length := by
    rw [toList_table, List.length_map]
  rw [tableSize, distance_eq, hlength, List.take_length, OpenTable.bodySize]

theorem directorySize_table (hm : p.slotCount.toNat ≤ maxSlots) :
    p.table.directorySize = p.directorySize := by
  rw [OpenTable.directorySize, toNat_slotCount hm]
  rfl

theorem position_written (hm : p.slotCount.toNat ≤ maxSlots) :
    p.written.bytes.size + p.table.directorySize = p.tablePosition := by
  rw [size_written, directorySize_table hm]
  rfl

theorem childPosition_lt (h : p.tablePosition < UInt32.size) (i : Fin p.children.length) :
    p.childPosition i < UInt32.size := by
  have := Child.sizeTo_add_le p.children i
  simp only [tablePosition, childPosition] at *
  omega

/-- What the directory of the table says of a slot. -/
theorem distance_table (p : Plan) {slot : Nat} (h : slot < UInt16.size) :
    p.table.distance (UInt16.ofNat slot) = p.entry slot := by
  have hslot (s : UInt16) : (s == UInt16.ofNat slot) = (s.toNat == slot) := by
    rw [Bool.eq_iff_iff, beq_iff_eq, beq_iff_eq, ← UInt16.toNat_inj, UInt16.toNat_ofNat_of_lt' h]
  rw [OpenTable.distance, distance?_eq_findIdx?, entry]
  simp only [← distance_eq]
  rw [toList_table, List.findIdx?_map]
  simp only [Function.comp_def, hslot]

theorem directory_table (hm : p.slotCount.toNat ≤ maxSlots) :
    p.table.directory = p.directoryBytes := by
  rw [OpenTable.directory, directorySize_table hm, bodySize_table, toNat_slotCount hm,
    directoryBytes]
  congr 2
  apply List.map_congr_left
  intro slot hs
  rw [distance_table p]
  have := List.mem_range.mp hs
  simp only [maxSlots, UInt16.size] at *
  omega

theorem bytesAt_cell (h : p.tablePosition < UInt32.size) (i : Nat)
    (filling : Filling p.children.length) :
    (filling.cell p.offsets).bytesAt (p.tablePosition + p.distance i) = p.fieldBytes i filling := by
  cases filling with
  | scalar value default => rfl
  | child index =>
    rw [fieldBytes, ← toNat_offsets (childPosition_lt h index)]
    rfl

theorem body_table (hm : p.slotCount.toNat ≤ maxSlots) (h : p.tablePosition < UInt32.size) :
    p.table.body p.tablePosition = p.tableBytes := by
  rw [OpenTable.body, directorySize_table hm, layout_eq_chain, tableBytes]
  simp only [← distance_eq]
  congr 2
  apply List.ext_getElem?
  intro i
  simp only [toList_table, List.getElem?_mapIdx, List.getElem?_map, Option.map_map,
    Function.comp_def, bytesAt_cell h]

theorem allInReach_table (h : p.tablePosition < UInt32.size) :
    AllInReach p.tablePosition 4 p.table.fields.toList ↔
      ∀ (i : Nat) (slot : UInt16) (index : Fin p.children.length),
        p.fields[i]? = some (slot, .child index) →
          p.tablePosition + p.distance i - p.childPosition index < UInt32.size := by
  rw [allInReach_iff]
  simp only [← distance_eq]
  simp only [toList_table, List.getElem?_map]
  constructor
  · intro hall i slot index hf
    have hreach := hall i (slot, .child (p.offsets index)) (by rw [hf]; rfl)
    rwa [Cell.InReach, toNat_offsets (childPosition_lt h index)] at hreach
  · intro hall i field hf
    obtain ⟨⟨slot, filling⟩, hi, rfl⟩ := Option.map_eq_some_iff.mp hf
    cases filling with
    | scalar value default => trivial
    | child index =>
      have hreach := hall i slot index hi
      rwa [← toNat_offsets (childPosition_lt h index)] at hreach

/-- What finishing the table of a plan hands out, and when it does. -/
theorem finish_written (ht : p.table.WellFormed) (hm : p.slotCount.toNat ≤ maxSlots)
    {bytes : ByteArray} :
    p.written.finish.1 = .ok bytes ↔
      p.tableSize < UInt16.size ∧
        AllInReach p.tablePosition 4 p.table.fields.toList ∧
        p.tablePosition < UInt32.size ∧ bytes = p.bytes := by
  have hextract : ((p.written.bytes ++ p.directoryBytes ++ p.tableBytes).extract headerSize
      (p.written.bytes ++ p.directoryBytes ++ p.tableBytes).size) =
      p.childrenBytes ++ p.directoryBytes ++ p.tableBytes := by
    rw [written, ByteArray.append_assoc, ByteArray.append_assoc, ByteArray.append_assoc]
    exact ByteArray.extract_append_eq_right (by simp [Builder.new]) (by simp)
  rw [Builder.finish_eq_ok rfl ht, position_written hm, bodySize_table, directory_table hm]
  refine and_congr_right fun _ => and_congr_right fun _ => and_congr_right fun hp => ?_
  rw [body_table hm hp, hextract, Plan.bytes]
  simp only [ByteArray.append_assoc]
  rfl

/-- Building a plan comes to finishing its table. -/
theorem build_eq_finish (hn : (p.pushes.map (·.1)).Nodup) {bytes : ByteArray} :
    p.build = .ok bytes ↔
      (∀ child ∈ p.children, child.data.size < UInt32.size) ∧
        p.slotCount.toNat ≤ maxSlots ∧
        (∀ push ∈ p.pushes, push.1.toNat < p.slotCount.toNat) ∧
        p.written.finish.1 = .ok bytes := by
  constructor
  · intro h
    obtain ⟨⟨offsets, b⟩, hcreate, h⟩ := bind_eq_ok.mp h
    obtain ⟨hd, hpos, rfl, rfl⟩ := Child.of_createAll rfl hcreate
    obtain ⟨b, hs, h⟩ := bind_eq_ok.mp h
    obtain ⟨-, hm, rfl⟩ := Builder.of_startTable hs
    obtain ⟨b, hw, hf⟩ := bind_eq_ok.mp h
    obtain ⟨hslots, rfl⟩ := (foldlM_pushes hn hm hpos).mp hw
    exact ⟨hd, hm, hslots, hf⟩
  · rintro ⟨hd, hm, hslots, hf⟩
    obtain ⟨-, -, hp, -⟩ := (finish_written (wellFormed_table hn hm hslots) hm).mp hf
    have hcreate := @Child.createAll_eq_ok .new p.children rfl hd (by
      have hsize : Builder.new.bytes.size = headerSize := by simp [Builder.new]
      rw [hsize]
      simp only [tablePosition, childPosition] at hp
      omega)
    have hstart : (⟨Builder.new.bytes ++ p.childrenBytes, none, none⟩ : Builder).startTable
        p.slotCount = .ok p.opened := by
      rw [Builder.startTable, if_neg (by simp), if_neg (by omega)]
      rfl
    have hpushes := (foldlM_pushes hn hm (childPosition_lt hp)).mpr ⟨hslots, rfl⟩
    exact bind_eq_ok.mpr ⟨_, hcreate, bind_eq_ok.mpr ⟨_, hstart, bind_eq_ok.mpr ⟨_, hpushes, hf⟩⟩⟩

theorem entry_of_field (hn : (p.pushes.map (·.1)).Nodup) {i : Nat} {slot : UInt16}
    {filling : Filling p.children.length} (hf : p.fields[i]? = some (slot, filling)) :
    p.entry slot.toNat = p.distance i := by
  have hnodup : (p.fields.map (·.1)).Nodup := hn.sublist (List.filter_sublist.map _)
  obtain ⟨hi, he⟩ := List.getElem?_eq_some_iff.mp hf
  have hfind : p.fields.findIdx? (·.1.toNat == slot.toNat) = some i := by
    refine List.findIdx?_eq_some_iff_getElem.mpr ⟨hi, by simp [he], ?_⟩
    intro j hj hs
    rw [beq_iff_eq, UInt16.toNat_inj] at hs
    refine List.nodup_iff_getElem?_ne_getElem?.mp hnodup j i hj (by simpa using hi) ?_
    rw [List.getElem?_map, List.getElem?_map, hf, List.getElem?_eq_getElem (by omega)]
    simp [hs]
  rw [entry, hfind]
  rfl

theorem entry_eq_zero {slot : UInt16} (hs : ∀ filling, (slot, filling) ∉ p.fields) :
    p.entry slot.toNat = 0 := by
  have hnone : p.fields.findIdx? (·.1.toNat == slot.toNat) = none := by
    rw [List.findIdx?_eq_none_iff]
    rintro ⟨s, filling⟩ hf
    rw [beq_eq_false_iff_ne, ne_eq, UInt16.toNat_inj]
    rintro rfl
    exact hs filling hf
  rw [entry, hnone]
  rfl

theorem distance_le_tableSize (p : Plan) (i : Nat) : p.distance i ≤ p.tableSize := by
  have hsplit := congrArg (fun fields => (fields.map (·.2.width)).sum)
    (List.take_append_drop i p.fields)
  simp only [List.map_append, List.sum_append] at hsplit
  rw [tableSize, distance, distance, List.take_length]
  omega

/-- A plan with slots of its own for each push is built if it fits, and then comes to exactly the
bytes of the format. The directory says of each field how far it is from the start of the table,
which is at least four, and zero of the slots without one. -/
theorem build_eq_ok_iff (p : Plan) (hn : (p.pushes.map (·.1)).Nodup) :
    (∀ bytes, p.build = .ok bytes ↔ p.Fits ∧ bytes = p.bytes) ∧
      (p.Fits → ∀ (i : Nat) (slot : UInt16) (filling : Filling p.children.length),
        p.fields[i]? = some (slot, filling) →
          p.entry slot.toNat = p.distance i ∧ 4 ≤ p.distance i ∧ p.distance i < UInt16.size) ∧
      ∀ slot, (∀ filling, (slot, filling) ∉ p.fields) → p.entry slot.toNat = 0 := by
  refine ⟨?_, ?_, ?_⟩
  · intro bytes
    rw [build_eq_finish hn]
    constructor
    · rintro ⟨hd, hm, hslots, hf⟩
      obtain ⟨hs, hr, hp, rfl⟩ := (finish_written (wellFormed_table hn hm hslots) hm).mp hf
      exact ⟨⟨hm, hslots, hd, hs, hp, (allInReach_table hp).mp hr⟩, rfl⟩
    · rintro ⟨h, rfl⟩
      have ht := wellFormed_table hn h.slotCount_le h.slot_lt
      have hr := (allInReach_table h.tablePosition_lt).mpr h.reach_lt
      exact ⟨h.child_lt, h.slotCount_le, h.slot_lt, (finish_written ht h.slotCount_le).mpr
        ⟨h.tableSize_lt, hr, h.tablePosition_lt, rfl⟩⟩
  · intro h i slot filling hf
    refine ⟨entry_of_field hn hf, ?_, ?_⟩
    · rw [distance]
      omega
    · exact Nat.lt_of_le_of_lt (p.distance_le_tableSize i) h.tableSize_lt
  · intro slot hs
    exact entry_eq_zero hs

/-- A number, a text and a number that readers fall back to. -/
def threeSlots : Plan where
  children := [.text "ab"]
  slotCount := 3
  pushes := [(0, .scalar (1 : UInt64) 0), (1, .child 0), (2, .scalar (0 : Int32) 0)]

/-- The header, the text, the directory and the table, which refers to the text from 28 bytes behind
it. -/
def threeSlotBytes : ByteArray := ⟨#[20, 0, 0, 0, 2, 0, 0, 0, 97, 98,
  10, 0, 16, 0, 4, 0, 12, 0, 0, 0, 10, 0, 0, 0, 1, 0, 0, 0, 0, 0, 0, 0, 28, 0, 0, 0]⟩

theorem build_threeSlots :
    threeSlots.build = .ok threeSlotBytes ∧ threeSlots.Fits ∧ threeSlots.bytes = threeSlotBytes ∧
      threeSlots.entry 1 = 12 := by
  have hbuild : threeSlots.build = .ok threeSlotBytes := by decide +kernel
  obtain ⟨hbytes, hentry, -⟩ := build_eq_ok_iff threeSlots (by decide)
  obtain ⟨h, he⟩ := (hbytes _).mp hbuild
  obtain ⟨hone, -, -⟩ := hentry h 1 1 (.child ⟨0, by decide⟩) rfl
  exact ⟨hbuild, h, he.symm, hone⟩

end Plan

end RecordStore.Buffer

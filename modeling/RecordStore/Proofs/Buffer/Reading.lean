import RecordStore.Proofs.Buffer.Standing

/-! What readers find in a table that stands in a buffer. -/
namespace RecordStore.Buffer

theorem slotOffset_eq_ok {slot offset : UInt16} :
    slotOffset slot = .ok offset ↔ offset.toNat = directoryHeaderSize + 2 * slot.toNat := by
  have ho := offset.toNat_lt
  rw [slotOffset, ite_error_eq_ok, ite_error_eq_ok, Except.ok.injEq, ← UInt16.toNat_inj]
  constructor
  · rintro ⟨-, hs, he⟩
    rw [UInt16.toNat_ofNat_of_lt' (by omega)] at he
    exact he.symm
  · intro he
    have hw : (UInt16.ofNat (directoryHeaderSize + 2 * slot.toNat)).toNat = offset.toNat := by
      rw [← he, UInt16.ofNat_toNat]
    refine ⟨?_, ?_, hw⟩ <;> simp only [UInt16.size, directoryHeaderSize] at * <;> omega

/-- Every slot that a table can have stands in its directory. -/
theorem exists_slotOffset {slot : UInt16} (h : slot.toNat < maxSlots) :
    ∃ offset, slotOffset slot = .ok offset := by
  refine ⟨UInt16.ofNat (directoryHeaderSize + 2 * slot.toNat), slotOffset_eq_ok.mpr ?_⟩
  rw [UInt16.toNat_ofNat_of_lt']
  simp only [UInt16.size, directoryHeaderSize, maxSlots] at *
  omega

/-- The table as readers see it. -/
def OpenTable.view (t : OpenTable) (position : Nat) (whole : ByteArray) : Table :=
  ⟨whole, position, position - t.directorySize, t.directorySize⟩

namespace Standing

variable {t : OpenTable} {position : Nat} {whole : ByteArray}

theorem toInt_ofBits {n : Nat} (h : n < UInt16.size) :
    (Scalar.ofBits n : Int32).toInt = n := by
  have hn : (Scalar.ofBits n : Int32) = Int32.ofNat n := rfl
  rw [hn, Int32.toInt_ofNat_of_lt (by simp [UInt16.size] at h; omega)]

theorem number_bodySize (h : Standing t position whole) :
    number 2 whole (position - t.directorySize + 2) = .ok t.bodySize := by
  have hr := h.directory.left.right
  rw [LittleEndian.size_bytes] at hr
  exact number_of_lies hr h.bodySize_lt

theorem atPosition (h : Standing t position whole) :
    Table.atPosition whole position = .ok (t.view position whole) := by
  have hs := OpenTable.directorySize_lt h.wellFormed
  have hl := h.header_le
  have hback : number 4 whole position = .ok t.directorySize :=
    number_of_lies h.body.left (Nat.lt_trans hs (by decide))
  have hsize : number 2 whole (position - t.directorySize) = .ok t.directorySize :=
    number_of_lies h.directory.left.left hs
  have hdirectory : slice whole (position - t.directorySize) t.directorySize = .ok t.directory := by
    have hr := slice_of_lies h.directory
    rwa [OpenTable.size_directory] at hr
  have hbody : slice whole position t.bodySize = .ok (t.body position) := by
    have hr := slice_of_lies h.body
    rwa [OpenTable.size_body] at hr
  have hto : ((position : Int) - (Scalar.ofBits t.directorySize : Int32).toInt).toNat =
      position - t.directorySize := by
    rw [toInt_ofBits hs]
    omega
  have hneg : ¬ (position : Int) - (Scalar.ofBits t.directorySize : Int32).toInt < 0 := by
    rw [toInt_ofBits hs]
    omega
  have heven : t.directorySize % 2 = 0 ∧ directoryHeaderSize ≤ t.directorySize := by
    simp only [OpenTable.directorySize, directoryHeaderSize]
    omega
  simp only [Table.atPosition, hback, ok_bind, if_neg hneg, hto, hsize, hdirectory,
    h.number_bodySize, hbody]
  rw [if_neg (by simp [heven])]
  rfl

/-- Readers find the field of a slot where it was laid out, and nothing in a slot without one. -/
theorem field? (h : Standing t position whole) {slot offset : UInt16}
    (ho : offset.toNat = directoryHeaderSize + 2 * slot.toNat) :
    (t.view position whole).field? offset =
      .ok ((distance? slot 4 t.fields.toList).map (position + ·)) := by
  have hs : t.directorySize = directoryHeaderSize + 2 * t.slotCount.toNat := rfl
  by_cases hlt : slot.toNat < t.slotCount.toNat
  · have hdirectory := h.directory.right
    rw [ByteArray.size_append, LittleEndian.size_bytes, LittleEndian.size_bytes] at hdirectory
    have hentry := (lies_chain_map (fun _ => LittleEndian.size_bytes 2 _)
      (List.getElem?_range hlt)).trans hdirectory
    have hn : number 2 whole (position - t.directorySize + offset.toNat) =
        .ok (t.distance slot) := by
      have := t.distance_le slot
      rw [show position - t.directorySize + offset.toNat =
        position - t.directorySize + (2 + 2) + 2 * slot.toNat by
          rw [ho, directoryHeaderSize]; omega]
      rw [UInt16.ofNat_toNat] at hentry
      exact number_of_lies hentry (Nat.lt_of_le_of_lt this h.bodySize_lt)
    have hin : ¬ (offset.toNat < directoryHeaderSize ∨ t.directorySize < offset.toNat + 2) := by
      omega
    simp only [Table.field?, OpenTable.view, if_neg hin, hn, ok_bind, OpenTable.distance]
    cases hd : distance? slot 4 t.fields.toList with
    | none => rfl
    | some d =>
      have := (distance?_bounds hd).1
      have hne : ¬ d = 0 := by omega
      simp [hne]
  · have hout : offset.toNat < directoryHeaderSize ∨ t.directorySize < offset.toNat + 2 := by
      omega
    have hnone : distance? slot 4 t.fields.toList = none := by
      rw [distance?_eq_none]
      intro hmem
      obtain ⟨field, hf, rfl⟩ := List.mem_map.mp hmem
      exact hlt (UInt16.lt_iff_toNat_lt.mp (h.wellFormed.slot_lt field hf))
    simp [Table.field?, OpenTable.view, hout, hnone]

theorem exists_field (h : Standing t position whole) {slot : UInt16} {cell : Cell}
    (hf : (slot, cell) ∈ t.fields.toList) :
    ∃ d, distance? slot 4 t.fields.toList = some d ∧
      Lies (cell.bytesAt (position + d)) (position + d) whole ∧ cell.InReach (position + d) := by
  obtain ⟨d, hd, hle, hl, hr⟩ := @exists_distance _ position 4 _ _ hf h.wellFormed.nodup
  refine ⟨d, hd, ?_, hr h.allInReach⟩
  have hbody := hl.trans h.body.right
  rwa [LittleEndian.size_bytes, show position + 4 + (d - 4) = position + d by omega] at hbody

end Standing

namespace Builder

variable {t : OpenTable} {b : Builder} {bytes : ByteArray}

/-- When a builder with an open table can be finished, and what it hands out. -/
theorem finish_eq_ok (ht : b.table = some t) (h : t.WellFormed) :
    b.finish.1 = .ok bytes ↔
      t.bodySize < UInt16.size ∧
        AllInReach (b.bytes.size + t.directorySize) 4 t.fields.toList ∧
        b.bytes.size + t.directorySize < UInt32.size ∧
        bytes = LittleEndian.bytes headerSize (b.bytes.size + t.directorySize) ++
          (b.bytes ++ t.directory ++ t.body (b.bytes.size + t.directorySize)).extract headerSize
            (b.bytes ++ t.directory ++ t.body (b.bytes.size + t.directorySize)).size := by
  simp only [finish, endTable, ht, Option.isSome_some, if_true]
  cases hw : b.write t with
  | error e =>
    refine ⟨fun he => by simp at he, fun hx => ?_⟩
    obtain ⟨hs, hr, hp, -⟩ := hx
    have := (write_eq_ok h).mpr ⟨hs, hr, hp, rfl, rfl⟩
    rw [hw] at this
    cases this
  | ok written =>
    obtain ⟨offset, b'⟩ := written
    obtain ⟨hs, hr, hp, rfl, rfl⟩ := (write_eq_ok h).mp hw
    simp only [release, UInt32.toNat_ofNat_of_lt' hp, Except.ok.injEq, hs, hr, hp, true_and]
    exact eq_comm

/-- A builder whose open table cannot be written cannot be finished. -/
theorem finish_eq_error (ht : b.table = some t) {e : BuildError} (hw : b.write t = .error e) :
    b.finish.1 = .error e := by
  simp only [finish, endTable, ht, Option.isSome_some, if_true, hw]

/-- A buffer that was handed out holds the table completed last, which readers find as its root, and
everything behind the header where it was. -/
theorem root_of_release {root : Offset} (hs : Standing t root.position.toNat b.bytes)
    (hl : b.lastTable = some root) (hr : b.release.1 = .ok bytes) :
    Standing t root.position.toNat bytes ∧
      Table.root bytes = .ok (t.view root.position.toNat bytes) ∧
      ∀ part p, headerSize ≤ p → Lies part p b.bytes → Lies part p bytes := by
  have hheader : (LittleEndian.bytes headerSize root.position.toNat).size = headerSize := by simp
  have he : bytes = LittleEndian.bytes headerSize root.position.toNat ++
      b.bytes.extract headerSize b.bytes.size := by
    simp only [release, hl] at hr
    exact (Except.ok.inj hr).symm
  have hmoved {part : ByteArray} {p : Nat} (hp : headerSize ≤ p) (hlies : Lies part p b.bytes) :
      Lies part p bytes := by
    have hreplaced := hlies.replace_header (LittleEndian.bytes headerSize root.position.toNat)
      (by rw [hheader]; exact hp)
    rwa [hheader, ← he] at hreplaced
  have hstand := hs.replace_header _ hheader
  rw [hheader, ← he] at hstand
  refine ⟨hstand, ?_, fun part p hp hlies => hmoved hp hlies⟩
  have hroot : number 4 bytes 0 = .ok root.position.toNat := by
    have hfront : Lies (LittleEndian.bytes headerSize root.position.toNat) 0 bytes := by
      rw [he]
      exact ⟨.empty, _, by rw [ByteArray.empty_append], rfl⟩
    exact number_of_lies hfront root.position.toNat_lt
  have := hstand.header_le
  rw [Table.root, hroot, ok_bind, if_neg (by omega)]
  exact hstand.atPosition

/-- A finished buffer holds the open table, which readers find as its root and which ends the
buffer, and every child where it was. -/
theorem root_of_finish (ht : b.table = some t) (h : t.WellFormed) (hb : headerSize ≤ b.bytes.size)
    (hf : b.finish.1 = .ok bytes) :
    ∃ position, Standing t position bytes ∧ Table.root bytes = .ok (t.view position bytes) ∧
      b.bytes.size ≤ position ∧ position + t.bodySize = bytes.size ∧
      ∀ part p, headerSize ≤ p → Lies part p b.bytes → Lies part p bytes := by
  obtain ⟨hs, hr, hp, he⟩ := (finish_eq_ok ht h).mp hf
  have hw := (write_eq_ok h (b := b)).mpr ⟨hs, hr, hp, rfl, rfl⟩
  have hrelease := hf
  simp only [finish, endTable, ht, Option.isSome_some, if_true, hw] at hrelease
  obtain ⟨hstand, hroot, hmoved⟩ := root_of_release (Standing.of_write h hb hw) rfl hrelease
  simp only [UInt32.toNat_ofNat_of_lt' hp] at hstand hroot
  refine ⟨_, hstand, hroot, by omega, ?_, ?_⟩
  · rw [he]
    simp only [ByteArray.size_append, ByteArray.size_extract, LittleEndian.size_bytes,
      OpenTable.size_directory, OpenTable.size_body]
    omega
  · intro part p hle hl
    exact hmoved part p hle
      ((hl.append_right t.directory).append_right (t.body (b.bytes.size + t.directorySize)))

end Builder

end RecordStore.Buffer

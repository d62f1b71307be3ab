import RecordStore.Proofs.Buffer.Layout

/-! Tables that stand in a buffer: how they get there, and that readers find them. -/
namespace RecordStore.Buffer

namespace OpenTable

/-- Every slot lies within the directory and was written at most once. -/
structure WellFormed (t : OpenTable) : Prop where
  nodup : (t.fields.toList.map (·.1)).Nodup
  slot_lt : ∀ field ∈ t.fields.toList, field.1 < t.slotCount
  slotCount_le : t.slotCount.toNat ≤ maxSlots

def bodySize (t : OpenTable) : Nat := 4 + totalWidth t.fields.toList

/-- The distance that the directory gives for a slot; zero without a field. -/
def distance (t : OpenTable) (slot : UInt16) : Nat := (distance? slot 4 t.fields.toList).getD 0

/-- The directory: its size, the size of the table and the distance of each slot. -/
def directory (t : OpenTable) : ByteArray :=
  LittleEndian.bytes 2 t.directorySize ++ LittleEndian.bytes 2 t.bodySize ++
    chain ((List.range t.slotCount.toNat).map fun slot =>
      LittleEndian.bytes 2 (t.distance (UInt16.ofNat slot)))

/-- The table at a position: the distance back to its directory, and the fields. -/
def body (t : OpenTable) (position : Nat) : ByteArray :=
  LittleEndian.bytes 4 t.directorySize ++ layout position 4 t.fields.toList

@[simp] theorem size_directory (t : OpenTable) : t.directory.size = t.directorySize := by
  rw [directory, ByteArray.size_append, size_chain_map fun _ => LittleEndian.size_bytes 2 _]
  simp [directorySize, directoryHeaderSize]

@[simp] theorem size_body (t : OpenTable) (position : Nat) :
    (t.body position).size = t.bodySize := by
  simp [body, bodySize]

theorem directorySize_lt {t : OpenTable} (h : t.WellFormed) : t.directorySize < UInt16.size := by
  have := h.slotCount_le
  simp only [directorySize, directoryHeaderSize, maxSlots, UInt16.size] at *
  omega

theorem distance_le (t : OpenTable) (slot : UInt16) : t.distance slot ≤ t.bodySize := by
  rw [distance, bodySize]
  cases h : distance? slot 4 t.fields.toList with
  | none => simp
  | some d => exact (distance?_bounds h).2

theorem toList_enter {t : OpenTable} (h : t.WellFormed) :
    (enter 4 t.fields.toList (Array.replicate t.slotCount.toNat 0)).toList =
      (List.range t.slotCount.toNat).map fun slot =>
        UInt16.ofNat (t.distance (UInt16.ofNat slot)) := by
  apply List.ext_getElem?
  intro i
  by_cases hi : i < t.slotCount.toNat
  · have hs : (UInt16.ofNat i).toNat = i := by
      have := t.slotCount.toNat_lt
      simp
      omega
    have he := @getElem?_enter _ 4 (UInt16.ofNat i) (Array.replicate t.slotCount.toNat 0) h.nodup
      (by simpa [hs] using hi)
    rw [hs] at he
    rw [Array.getElem?_toList, he]
    simp only [List.getElem?_map, List.getElem?_range hi, Option.map_some, distance]
    cases distance? (UInt16.ofNat i) 4 t.fields.toList <;> simp [hi]
  · rw [List.getElem?_eq_none (by simpa using hi), List.getElem?_eq_none (by simpa using hi)]

end OpenTable

theorem foldl_append_bytes (f : UInt16 → ByteArray) (xs : List UInt16) (start : ByteArray) :
    xs.foldl (fun bytes x => bytes ++ f x) start = start ++ chain (xs.map f) := by
  induction xs generalizing start with
  | nil => simp
  | cons x xs ih => simp [ih, ByteArray.append_assoc]

namespace Builder

theorem offset?_eq_ok {region : Region} {position : Nat} {offset : Offset} :
    offset? region position = .ok offset ↔
      position < UInt32.size ∧ offset = ⟨UInt32.ofNat position⟩ := by
  rw [offset?, eq_comm (a := offset)]
  by_cases h : position < UInt32.size <;> simp [h]

/-- The directory and the table, put together from the distances that were entered. -/
theorem bytes_written {t : OpenTable} (h : t.WellFormed) (hs : t.bodySize < UInt16.size)
    (front : ByteArray) (position : Nat) :
    (enter 4 t.fields.toList (Array.replicate t.slotCount.toNat 0)).foldl
        (fun bytes d => bytes ++ LittleEndian.bytes 2 d.toNat)
        (front ++ LittleEndian.bytes 2 t.directorySize ++ LittleEndian.bytes 2 t.bodySize) ++
        t.body position =
      front ++ t.directory ++ t.body position := by
  have hd : ∀ slot, (UInt16.ofNat (t.distance slot)).toNat = t.distance slot := by
    intro slot
    have := t.distance_le slot
    exact UInt16.toNat_ofNat_of_lt' (by omega)
  rw [← Array.foldl_toList, foldl_append_bytes (fun d => LittleEndian.bytes 2 d.toNat),
    OpenTable.toList_enter h]
  simp [OpenTable.directory, Function.comp_def, hd, ByteArray.append_assoc]

/-- When a table can be written, and what is written: its directory and then the table. -/
theorem write_eq_ok {t : OpenTable} (h : t.WellFormed) {b b' : Builder} {offset : Offset} :
    b.write t = .ok (offset, b') ↔
      t.bodySize < UInt16.size ∧
        AllInReach (b.bytes.size + t.directorySize) 4 t.fields.toList ∧
        b.bytes.size + t.directorySize < UInt32.size ∧
        offset = ⟨UInt32.ofNat (b.bytes.size + t.directorySize)⟩ ∧
        b' = ⟨b.bytes ++ t.directory ++ t.body (b.bytes.size + t.directorySize), none,
          some offset⟩ := by
  have hstart : (LittleEndian.bytes 4 t.directorySize).size = 4 := by simp
  have hbody (position : Nat) : (LittleEndian.bytes 4 t.directorySize ++
      layout position 4 t.fields.toList).size = t.bodySize := t.size_body position
  simp only [write, throw_eq_error, error_bind, ← Array.foldlM_toList]
  constructor
  · intro hw
    obtain ⟨body, hf, hw⟩ := bind_eq_ok.mp hw
    obtain ⟨hr, rfl⟩ := of_foldlM_add hf
    rw [hstart] at hr hw
    obtain ⟨hs, hw⟩ := ite_error_eq_ok.mp hw
    obtain ⟨o, ho, hw⟩ := bind_eq_ok.mp hw
    rw [hbody] at hs hw
    obtain ⟨hp, rfl⟩ := offset?_eq_ok.mp ho
    cases hw
    refine ⟨by omega, hr, hp, rfl, ?_⟩
    rw [← bytes_written h (by omega)]
    rfl
  · rintro ⟨hs, hr, hp, rfl, rfl⟩
    rw [foldlM_add (by rw [hstart]; exact hs) (by rw [hstart]; exact hr), ok_bind]
    rw [hstart, ite_error_eq_ok, hbody]
    refine ⟨by omega, bind_eq_ok.mpr ⟨_, offset?_eq_ok.mpr ⟨hp, rfl⟩, ?_⟩⟩
    rw [← bytes_written h hs]
    rfl

/-- A table of more bytes than 16 bits can count cannot be written. -/
theorem write_tooLarge {t : OpenTable} {b : Builder} (hs : UInt16.size ≤ t.bodySize)
    (hr : AllInReach (b.bytes.size + t.directorySize) 4 t.fields.toList) :
    ∃ length, UInt16.size ≤ length ∧ b.write t = .error (.tooLarge .table length) := by
  have hstart : (LittleEndian.bytes 4 t.directorySize).size = 4 := by simp
  simp only [write, throw_eq_error, error_bind, ← Array.foldlM_toList]
  rcases @foldlM_add_cases _ ⟨LittleEndian.bytes 4 t.directorySize,
    Array.replicate t.slotCount.toNat 0⟩ _ (by rw [hstart]; exact hr) with hall | ⟨length, hl, he⟩
  · have hlong : UInt16.size ≤ (LittleEndian.bytes 4 t.directorySize ++
        layout (b.bytes.size + t.directorySize) (LittleEndian.bytes 4 t.directorySize).size
          t.fields.toList).size := by
      rw [hstart]
      exact (t.size_body (b.bytes.size + t.directorySize)).symm ▸ hs
    rw [hall, ok_bind]
    exact ⟨_, hlong, if_pos hlong⟩
  · exact ⟨length, hl, by rw [he, error_bind]⟩

end Builder

/-- A written table as it stands in a buffer, with its directory right in front of it. -/
structure Standing (t : OpenTable) (position : Nat) (whole : ByteArray) : Prop where
  wellFormed : t.WellFormed
  bodySize_lt : t.bodySize < UInt16.size
  allInReach : AllInReach position 4 t.fields.toList
  header_le : headerSize + t.directorySize ≤ position
  directory : Lies t.directory (position - t.directorySize) whole
  body : Lies (t.body position) position whole

namespace Standing

variable {t : OpenTable} {position : Nat} {whole : ByteArray}

theorem of_write {b b' : Builder} {offset : Offset} (h : t.WellFormed)
    (hb : headerSize ≤ b.bytes.size) (hw : b.write t = .ok (offset, b')) :
    Standing t offset.position.toNat b'.bytes := by
  obtain ⟨hs, hr, hp, rfl, rfl⟩ := (Builder.write_eq_ok h).mp hw
  have ho : (UInt32.ofNat (b.bytes.size + t.directorySize)).toNat =
      b.bytes.size + t.directorySize := UInt32.toNat_ofNat_of_lt' hp
  refine ⟨h, hs, ?_, ?_, ?_, ?_⟩
  · rw [ho]
    exact hr
  · rw [ho]
    omega
  · rw [ho, Nat.add_sub_cancel]
    exact .intro _ _ rfl
  · rw [ho]
    refine ⟨b.bytes ++ t.directory, .empty, by simp, by simp⟩

theorem append_right (h : Standing t position whole) (more : ByteArray) :
    Standing t position (whole ++ more) :=
  { h with directory := h.directory.append_right more, body := h.body.append_right more }

theorem replace_header (h : Standing t position whole) (header : ByteArray)
    (hh : header.size = headerSize) :
    Standing t position (header ++ whole.extract header.size whole.size) := by
  have := h.header_le
  exact { h with
    directory := h.directory.replace_header header (by omega)
    body := h.body.replace_header header (by omega) }

end Standing

end RecordStore.Buffer

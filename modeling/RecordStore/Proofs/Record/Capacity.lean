import RecordStore.Proofs.Record.RoundTrip

/-! When a record can be encoded: the slots, the widths of its values and the size of its table
decide, as long as what lies outside the table leaves room for it. -/
namespace RecordStore

open Buffer

namespace Buffer

theorem allInReach_of_lt {fields : List (UInt16 × Cell)} {position distance : Nat}
    (h : position + distance + totalWidth fields < UInt32.size) :
    AllInReach position distance fields := by
  induction fields generalizing distance with
  | nil => trivial
  | cons field rest ih =>
    obtain ⟨slot, cell⟩ := field
    rw [totalWidth_cons] at h
    refine ⟨?_, ih (by omega)⟩
    cases cell with
    | inline bytes => trivial
    | child offset =>
      rw [Cell.InReach]
      omega

end Buffer

namespace Value

/-- Bytes that the value takes up in the table. -/
def tableWidth (v : Value) : Nat :=
  if v.payload?.isSome then 4 else ((v.cell? none).map Cell.width).getD 0

theorem width_cell? {v : Value} {child : Option Offset} {P : ByteArray → Offset → Prop}
    (h : Option.Rel P v.payload? child) :
    ((v.cell? child).map Cell.width).getD 0 = v.tableWidth := by
  cases v with
  | text _ | bytes _ =>
    cases h with
    | some h => rfl
  | _ => rfl

end Value

namespace Binding

variable {b : Binding} {r : Record b.types} {id : UInt64} {children : List (Option Offset)}

theorem values_entries (h : b.WellFormed) (hl : children.length = r.values.length) :
    (b.entries r children).map (valueOf id) = (b.setId r id).values := by
  have hz : (b.entries r children).map (valueOf id) =
      List.zipWith (fun f pair => stored id f pair.1) b.fields (r.values.zip children) := by
    rw [entries, List.zip_eq_zipWith, List.map_zipWith]
    rfl
  have hv : (r.values.zip children).map Prod.fst = r.values := List.map_fst_zip (by omega)
  rw [hz, values_setId h, ← List.zipWith_map_right, hv]

theorem totalWidth_filled (h : b.WellFormed) (hl : children.length = r.values.length)
    {P : ByteArray → Offset → Prop}
    (hrel : ∀ entry ∈ r.values.zip children, Option.Rel P entry.1.payload? entry.2)
    (slotCount : UInt16) :
    totalWidth (fill id ⟨slotCount, #[]⟩ (b.entries r children)).fields.toList =
      ((b.setId r id).values.map Value.tableWidth).sum := by
  have hcells (entries : List Entry) :
      totalWidth (entries.filterMap fun entry => (cellOf id entry).map (slotOf entry, ·)) =
        (entries.map fun entry => ((cellOf id entry).map Cell.width).getD 0).sum := by
    induction entries with
    | nil => rfl
    | cons entry entries ih =>
      rw [List.filterMap_cons, List.map_cons, List.sum_cons, ← ih]
      cases cellOf id entry with
      | none => simp
      | some cell => simp
  rw [fields_fill, show (#[] : Array (UInt16 × Cell)).toList = [] from rfl, List.nil_append, hcells,
    ← values_entries h hl, List.map_map]
  congr 1
  apply List.map_congr_left
  intro entry he
  obtain ⟨i, hi⟩ := List.mem_iff_getElem?.mp he
  obtain ⟨hf, hpair⟩ := List.getElem?_zip_eq_some.mp hi
  have hv := (List.getElem?_zip_eq_some.mp hpair).1
  have hentry := hrel _ (List.mem_of_getElem? hpair)
  rw [← @payload?_stored b r id h i _ _ hf hv] at hentry
  exact Value.width_cell? hentry

theorem size_filled (b : Binding) (r : Record b.types) (id : UInt64)
    (children : List (Option Offset)) :
    (b.filled r id children).bytes.size = headerSize + (Value.outside r.values).size := by
  rw [filled, ByteArray.size_append]
  rfl

theorem bodySize_filled (h : b.WellFormed) (hl : children.length = r.values.length)
    {P : ByteArray → Offset → Prop}
    (hrel : ∀ entry ∈ r.values.zip children, Option.Rel P entry.1.payload? entry.2) :
    (fill id ⟨b.entity.slotCount.toUInt16, #[]⟩ (b.entries r children)).bodySize =
      4 + ((b.setId r id).values.map Value.tableWidth).sum := by
  rw [OpenTable.bodySize, totalWidth_filled h hl hrel]

theorem directorySize_filled (hm : b.entity.slotCount.toNat ≤ maxSlots) :
    (fill id ⟨b.entity.slotCount.toUInt16, #[]⟩ (b.entries r children)).directorySize =
      directoryHeaderSize + 2 * b.entity.slotCount.toNat := by
  simp only [maxSlots] at hm
  rw [OpenTable.directorySize, slotCount_fill, UInt32.toNat_toUInt16, Nat.mod_eq_of_lt (by omega)]

/-- A full table whose buffer stays below 2 ^ 32 bytes can be closed if it stays within 16 bits, and
otherwise fails for this alone. -/
theorem finish_filled (h : b.WellFormed) (hm : b.entity.slotCount.toNat ≤ maxSlots)
    (hl : children.length = r.values.length) {P : ByteArray → Offset → Prop}
    (hrel : ∀ entry ∈ r.values.zip children, Option.Rel P entry.1.payload? entry.2)
    (hroom : headerSize + (Value.outside r.values).size +
      (directoryHeaderSize + 2 * b.entity.slotCount.toNat) +
        (4 + ((b.setId r id).values.map Value.tableWidth).sum) < UInt32.size) :
    (4 + ((b.setId r id).values.map Value.tableWidth).sum < UInt16.size →
      ∃ bytes, (b.filled r id children).finish.1 = .ok bytes) ∧
    (UInt16.size ≤ 4 + ((b.setId r id).values.map Value.tableWidth).sum →
      ∃ length, UInt16.size ≤ length ∧
        (b.filled r id children).finish.1 = .error (.tooLarge .table length)) := by
  have hwf := @wellFormed_filled b r id children h hm hl
  have hsize := size_filled b r id children
  have hbody := @bodySize_filled b r id children h hl P hrel
  have hdirectory := @directorySize_filled b r id children hm
  have hreach : AllInReach ((b.filled r id children).bytes.size +
      (fill id ⟨b.entity.slotCount.toUInt16, #[]⟩ (b.entries r children)).directorySize) 4
      (fill id ⟨b.entity.slotCount.toUInt16, #[]⟩ (b.entries r children)).fields.toList := by
    apply allInReach_of_lt
    rw [OpenTable.bodySize] at hbody
    omega
  constructor
  · intro hs
    exact ⟨_, (Builder.finish_eq_ok rfl hwf).mpr ⟨by omega, hreach, by omega, rfl⟩⟩
  · intro hs
    obtain ⟨length, hlength, hw⟩ := Builder.write_tooLarge (by rw [hbody]; exact hs) hreach
    exact ⟨length, hlength, Builder.finish_eq_error rfl hw⟩

/-- A full table can be closed if it stays within 16 bits, as long as there is room for it. -/
theorem exists_finish_iff (h : b.WellFormed) (hm : b.entity.slotCount.toNat ≤ maxSlots)
    (hl : children.length = r.values.length) {P : ByteArray → Offset → Prop}
    (hrel : ∀ entry ∈ r.values.zip children, Option.Rel P entry.1.payload? entry.2)
    (hroom : headerSize + (Value.outside r.values).size + 2 * UInt16.size ≤ UInt32.size) :
    (∃ bytes, (b.filled r id children).finish.1 = .ok bytes) ↔
      4 + ((b.setId r id).values.map Value.tableWidth).sum < UInt16.size := by
  constructor
  · rintro ⟨bytes, he⟩
    obtain ⟨hs, -⟩ := (Builder.finish_eq_ok rfl (wellFormed_filled h hm hl)).mp he
    rwa [bodySize_filled h hl hrel] at hs
  · intro hs
    refine (finish_filled h hm hl hrel ?_).1 hs
    simp only [maxSlots, directoryHeaderSize, UInt16.size] at *
    omega

/-- The children of a record are written if they end within 2 ^ 32 bytes. -/
theorem exists_children
    (hroom : headerSize + (Value.outside r.values).size < UInt32.size) :
    ∃ children, writeChildren r.values .new =
        .ok (children, { Builder.new with
          bytes := Builder.new.bytes ++ Value.outside r.values }) ∧
      children.length = r.values.length ∧
      ∃ P, ∀ entry ∈ r.values.zip children, Option.Rel P entry.1.payload? entry.2 := by
  have hnew : Builder.new.bytes.size = headerSize := by simp [Builder.new]
  obtain ⟨children, hw⟩ := @writeChildren_ok Builder.new r.values rfl (by rw [hnew]; exact hroom)
  obtain ⟨-, hl, hrel⟩ := of_writeChildren rfl (by decide) hw
  exact ⟨children, hw, hl, _, hrel⟩

/-- Where there are not too many slots and every value fits, encoding comes to closing the table. -/
theorem encode_eq_finish (h : b.WellFormed)
    (hw : writeChildren r.values .new =
      .ok (children, { Builder.new with bytes := Builder.new.bytes ++ Value.outside r.values }))
    (hm : b.entity.slotCount.toNat ≤ maxSlots)
    (hfits : ∀ entry ∈ b.entries r children, (valueOf id entry).fits = true) :
    b.encode r id = (b.filled r id children).finish.1 := by
  have hfind : (b.entries r children).find? (fun entry => !(valueOf id entry).fits) = none := by
    rw [List.find?_eq_none]
    intro entry he
    simpa using hfits entry he
  rw [encode, flatten_eq h hw, if_neg (Nat.not_lt.mpr hm), hfind, ok_bind]

theorem fits_entries (h : b.WellFormed) (hl : children.length = r.values.length) :
    (∀ entry ∈ b.entries r children, (valueOf id entry).fits = true) ↔
      ∀ v ∈ (b.setId r id).values, v.fits = true := by
  rw [← values_entries h hl, List.forall_mem_map]

/-- A record whose texts and bytes leave room can be encoded if there are not too many slots, its
values fit and its table stays within 16 bits. -/
theorem exists_encode_iff (h : b.WellFormed)
    (hroom : headerSize + (Value.outside r.values).size + 2 * UInt16.size ≤ UInt32.size) :
    (∃ bytes, b.encode r id = .ok bytes) ↔
      b.entity.slotCount.toNat ≤ maxSlots ∧ (∀ v ∈ (b.setId r id).values, v.fits = true) ∧
        4 + ((b.setId r id).values.map Value.tableWidth).sum < UInt16.size := by
  constructor
  · rintro ⟨bytes, he⟩
    obtain ⟨children, hl, hm, hlodged, hfits, hfinish⟩ := of_encode h he
    exact ⟨hm, (fits_entries h hl).mp hfits,
      (exists_finish_iff h hm hl hlodged hroom).mp ⟨bytes, hfinish⟩⟩
  · rintro ⟨hm, hfits, hs⟩
    obtain ⟨children, hw, hl, P, hrel⟩ := exists_children (r := r) (by
      simp only [UInt16.size] at hroom
      omega)
    rw [encode_eq_finish h hw hm ((fits_entries h hl).mpr hfits)]
    exact (exists_finish_iff h hm hl hrel hroom).mpr hs

end Binding

end RecordStore

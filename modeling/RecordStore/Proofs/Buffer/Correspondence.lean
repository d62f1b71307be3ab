import RecordStore.Proofs.Buffer.Positions

/-! Reading at positions of 64 bits comes to the same as reading at natural numbers. -/
namespace RecordStore.Buffer

/-- Two readings end with values that belong together, or with the same error. -/
def Reading.Agrees {α β : Type} (r : α → β → Prop) (x : Reading α) (y : Except ReadError β) :
    Prop :=
  (∃ a b, x = .ok a ∧ y = .ok b ∧ r a b) ∨ ∃ e, x = .fail e ∧ y = .error e

namespace Reading.Agrees

variable {α β γ δ : Type} {r : α → β → Prop} {s : γ → δ → Prop}

theorem ok {a : α} {b : β} (h : r a b) : Agrees r (.ok a) (.ok b) := .inl ⟨a, b, rfl, rfl, h⟩

theorem error (e : ReadError) : Agrees r (.fail e) (.error e) := .inr ⟨e, rfl, rfl⟩

theorem bind {x : Reading α} {y : Except ReadError β} (h : Agrees r x y) {k : α → Reading γ}
    {l : β → Except ReadError δ} (hk : ∀ a b, x = .ok a → r a b → Agrees s (k a) (l b)) :
    Agrees s (x >>= k) (y >>= l) := by
  rcases h with ⟨a, b, rfl, rfl, hr⟩ | ⟨e, rfl, rfl⟩
  · exact hk a b rfl hr
  · exact error e

theorem mono {r' : α → β → Prop} {x : Reading α} {y : Except ReadError β} (h : Agrees r x y)
    (hr : ∀ a b, r a b → r' a b) : Agrees r' x y := by
  rcases h with ⟨a, b, rfl, rfl, hab⟩ | ⟨e, rfl, rfl⟩
  · exact ok (hr a b hab)
  · exact error e

/-- Readings that agree in their values are the same. -/
theorem eq {x : Reading α} {y : Except ReadError α} (h : Agrees Eq x y) :
    x = y.mapError .error := by
  rcases h with ⟨a, b, rfl, rfl, rfl⟩ | ⟨e, rfl, rfl⟩
  · rfl
  · rfl

end Reading.Agrees

section

variable (bytes : ByteArray) {position : UInt64} {needed : Nat}

theorem sliceAt_agrees (h : position.toNat + needed < UInt64.size) :
    (sliceAt bytes position needed).Agrees (fun part part' => part = part' ∧ part.size = needed)
      (slice bytes position.toNat needed) := by
  rw [sliceAt, slice]
  by_cases hle : position.toNat + needed ≤ bytes.size
  · rw [if_pos ⟨h, hle⟩, if_pos hle]
    refine .ok ⟨rfl, ?_⟩
    rw [ByteArray.size_extract]
    omega
  · rw [if_neg (fun hn => hle hn.2), if_neg hle]
    exact .error _

theorem valueAt_agrees {α : Type} [Scalar α]
    (h : position.toNat + Scalar.width α < UInt64.size) :
    (valueAt bytes position : Reading α).Agrees
      (fun value n => value = Scalar.ofBits n ∧ n < LittleEndian.capacity (Scalar.width α))
      (number (Scalar.width α) bytes position.toNat) := by
  refine (sliceAt_agrees bytes h).bind ?_
  rintro part _ - ⟨rfl, hsize⟩
  refine .ok ⟨rfl, ?_⟩
  rw [← hsize]
  exact LittleEndian.value_lt part

theorem word_agrees (h : position.toNat < 4 * UInt32.size) :
    (valueAt bytes position : Reading UInt16).Agrees (fun value n => value.toNat = n)
      (number 2 bytes position.toNat) := by
  have hfit : position.toNat + Scalar.width UInt16 < UInt64.size := by
    have hwidth : Scalar.width UInt16 = 2 := rfl
    simp only [UInt32.size, UInt64.size, hwidth] at *
    omega
  refine (valueAt_agrees bytes hfit).mono ?_
  rintro _ n ⟨rfl, hn⟩
  exact UInt16.toNat_ofNat_of_lt' hn

theorem longWord_agrees (h : position.toNat < 4 * UInt32.size) :
    (valueAt bytes position : Reading UInt32).Agrees (fun value n => value.toNat = n)
      (number 4 bytes position.toNat) := by
  have hfit : position.toNat + Scalar.width UInt32 < UInt64.size := by
    have hwidth : Scalar.width UInt32 = 4 := rfl
    simp only [UInt32.size, UInt64.size, hwidth] at *
    omega
  refine (valueAt_agrees bytes hfit).mono ?_
  rintro _ n ⟨rfl, hn⟩
  exact UInt32.toNat_ofNat_of_lt' hn

end

namespace Reader

/-- The table with its positions as natural numbers. -/
def table (r : Reader) : Table :=
  ⟨r.bytes, r.position.toNat, r.directory.toNat, r.directorySize.toNat⟩

theorem atPosition_agrees (bytes : ByteArray) {position : UInt64}
    (hp : position.toNat < UInt32.size) :
    (atPosition bytes position).Agrees (fun r t => r.table = t)
      (Table.atPosition bytes position.toNat) := by
  have hfit : position.toNat + Scalar.width Int32 < UInt64.size := by
    have hwidth : Scalar.width Int32 = 4 := rfl
    simp only [UInt32.size, UInt64.size, hwidth] at *
    omega
  refine (valueAt_agrees bytes hfit).bind ?_
  rintro distance n - ⟨rfl, -⟩
  obtain ⟨target, htarget, hnat, hlt⟩ := back?_eq hp (Scalar.ofBits n)
  simp only [htarget, ok_bind, throw_eq_error, error_bind]
  cases target with
  | none =>
    have hneg : (position.toNat : Int) - (Scalar.ofBits n : Int32).toInt < 0 := by
      refine Decidable.byContradiction fun hn => ?_
      rw [if_neg hn] at hnat
      cases hnat
    rw [if_pos hneg]
    exact .error _
  | some directory =>
    have hdirectory := hlt directory rfl
    have hpos : ¬ (position.toNat : Int) - (Scalar.ofBits n : Int32).toInt < 0 := by
      intro hneg
      rw [if_pos hneg] at hnat
      cases hnat
    rw [if_neg hpos, Option.map_some, Option.some.injEq] at hnat
    rw [if_neg hpos, ← hnat]
    simp only [UInt32.size] at hdirectory hp
    refine (word_agrees bytes (by rw [UInt32.size]; omega)).bind ?_
    rintro size _ - rfl
    have hodd : (size % 2 != 0) = (size.toNat % 2 != 0) := by
      rw [Bool.eq_iff_iff, bne_iff_ne, bne_iff_ne, Ne, ← UInt16.toNat_inj, UInt16.toNat_mod]
      rfl
    simp only [hodd]
    split
    case isTrue => exact .error _
    case isFalse =>
      have hsize := size.toNat_lt
      refine (sliceAt_agrees bytes (by rw [UInt64.size]; omega)).bind ?_
      rintro _ _ - -
      obtain ⟨hnext, hnext_toNat⟩ : forth directory 2 = .ok (directory + 2) ∧
          (directory + 2).toNat = directory.toNat + 2 :=
        forth_word (by rw [UInt32.size]; omega) 2
      rw [hnext, ok_bind, ← hnext_toNat]
      refine (word_agrees bytes (by rw [hnext_toNat, UInt32.size]; omega)).bind ?_
      rintro length _ - rfl
      have hlength := length.toNat_lt
      refine (sliceAt_agrees bytes (by rw [UInt64.size]; omega)).bind ?_
      rintro _ _ - -
      refine .ok ?_
      rw [table, UInt16.toNat_toUInt64]

theorem root_agrees (bytes : ByteArray) :
    (root bytes).Agrees (fun r t => r.table = t) (Table.root bytes) := by
  refine (@longWord_agrees bytes 0 (by decide)).bind ?_
  rintro position _ - rfl
  simp only [throw_eq_error, error_bind]
  split
  case isTrue => exact .error _
  case isFalse =>
    have h := @atPosition_agrees bytes position.toUInt64
      (by rw [UInt32.toNat_toUInt64]; exact position.toNat_lt)
    rwa [UInt32.toNat_toUInt64] at h

variable {r : Reader} (offset : UInt16)

theorem Framed.field?_agrees (h : r.Framed) :
    (r.field? offset).Agrees
      (fun field field' => field.map UInt64.toNat = field' ∧
        ∀ position ∈ field, position.toNat < 2 * UInt32.size)
      (r.table.field? offset) := by
  have hoffset := offset.toNat_lt
  have hposition := h.position_lt
  have hdirectory := h.directory_lt
  simp only [UInt32.size] at hposition hdirectory
  obtain ⟨hend, hend_toNat⟩ : forth offset.toUInt64 2 = .ok (offset.toUInt64 + 2) ∧
      (offset.toUInt64 + 2).toNat = offset.toUInt64.toNat + 2 :=
    forth_word (by rw [UInt16.toNat_toUInt64, UInt32.size]; omega) 2
  rw [UInt16.toNat_toUInt64] at hend_toNat
  have hlast :
      r.directorySize < offset.toUInt64 + 2 ↔ r.table.directorySize < offset.toNat + 2 := by
    rw [UInt64.lt_iff_toNat_lt, hend_toNat]
    rfl
  rw [field?, Table.field?, hend, ok_bind]
  by_cases hheader : offset.toNat < directoryHeaderSize
  · rw [if_pos hheader, if_pos (.inl hheader)]
    exact .ok ⟨rfl, by simp⟩
  by_cases hbeyond : r.table.directorySize < offset.toNat + 2
  · rw [if_neg hheader, if_pos (hlast.mpr hbeyond), if_pos (.inr hbeyond)]
    exact .ok ⟨rfl, by simp⟩
  rw [if_neg hheader, if_neg (mt hlast.mp hbeyond), if_neg (not_or.mpr ⟨hheader, hbeyond⟩)]
  obtain ⟨hentry, hentry_toNat⟩ := @forth_word r.directory (by rw [UInt32.size]; omega) offset
  have hword := @word_agrees r.bytes (r.directory + offset.toUInt64)
    (by rw [hentry_toNat, UInt32.size]; omega)
  rw [hentry_toNat] at hword
  rw [hentry, ok_bind]
  refine hword.bind ?_
  rintro distance _ - rfl
  have hdistance := distance.toNat_lt
  obtain ⟨hfield, hfield_toNat⟩ := @forth_word r.position (by rw [UInt32.size]; omega) distance
  have hzero_toNat : distance = 0 ↔ distance.toNat = 0 := by
    rw [← UInt16.toNat_inj]
    rfl
  by_cases hzero : distance = 0
  · rw [if_pos hzero, if_pos (hzero_toNat.mp hzero)]
    exact .ok ⟨rfl, by simp⟩
  · rw [if_neg hzero, if_neg (mt hzero_toNat.mpr hzero), hfield]
    refine .ok ⟨by rw [Option.map_some, hfield_toNat]; rfl, ?_⟩
    rintro _ ⟨⟩
    rw [hfield_toNat, UInt32.size]
    omega

theorem Framed.has_agrees (h : r.Framed) : (r.has offset).Agrees Eq (r.table.has offset) := by
  refine (h.field?_agrees offset).bind ?_
  rintro field _ - ⟨rfl, -⟩
  exact .ok (by cases field <;> rfl)

theorem Framed.get_agrees (h : r.Framed) {α : Type} [Scalar α] (hw : Scalar.width α < UInt32.size)
    (default : α) : (r.get offset default).Agrees Eq (r.table.get offset default) := by
  refine (h.field?_agrees offset).bind ?_
  rintro field _ - ⟨rfl, hlt⟩
  cases field with
  | none => exact .ok rfl
  | some position =>
    have hposition := hlt position rfl
    simp only [UInt32.size] at hposition hw
    refine (sliceAt_agrees r.bytes (by rw [UInt64.size]; omega)).bind ?_
    rintro part _ - ⟨rfl, -⟩
    exact .ok rfl

theorem Framed.char_agrees (h : r.Framed) (default : Char) :
    (r.char offset default).Agrees Eq (r.table.char offset default) := by
  refine (h.field?_agrees offset).bind ?_
  rintro field _ - ⟨rfl, hlt⟩
  cases field with
  | none => exact .ok rfl
  | some position =>
    have hposition := hlt position rfl
    refine (longWord_agrees r.bytes (by rw [UInt32.size] at *; omega)).bind ?_
    rintro n _ - rfl
    simp only [throw_eq_error]
    split
    case isTrue => exact .ok rfl
    case isFalse =>
      rw [UInt32.ofNat_toNat]
      exact .error _

theorem Framed.byteVector_agrees (h : r.Framed) :
    (r.byteVector offset).Agrees Eq (r.table.byteVector offset) := by
  refine (h.field?_agrees offset).bind ?_
  rintro field _ - ⟨rfl, hlt⟩
  cases field with
  | none => exact .ok rfl
  | some position =>
    have hposition := hlt position rfl
    simp only [UInt32.size] at hposition
    refine (longWord_agrees r.bytes (by rw [UInt32.size]; omega)).bind ?_
    rintro distance _ - rfl
    simp only [throw_eq_error, error_bind]
    have hless : position < distance.toUInt64 ↔ position.toNat < distance.toNat := by
      rw [UInt64.lt_iff_toNat_lt, UInt32.toNat_toUInt64]
    by_cases hback : position.toNat < distance.toNat
    · rw [if_pos (hless.mpr hback), if_pos hback]
      exact .error _
    rw [if_neg (mt hless.mp hback), if_neg hback]
    obtain ⟨-, hchild⟩ := @back_eq position distance.toUInt64
      (by rw [UInt32.toNat_toUInt64]; omega)
    rw [UInt32.toNat_toUInt64] at hchild
    have hlength := @longWord_agrees r.bytes (position - distance.toUInt64)
      (by rw [hchild, UInt32.size]; omega)
    rw [hchild] at hlength
    refine hlength.bind ?_
    rintro length _ - rfl
    have hlength_lt := length.toNat_lt
    obtain ⟨hnext, hnext_toNat⟩ : forth (position - distance.toUInt64) 4 =
          .ok (position - distance.toUInt64 + 4) ∧ (position - distance.toUInt64 + 4).toNat =
          (position - distance.toUInt64).toNat + 4 :=
      forth_word (by rw [hchild, UInt32.size]; omega) 4
    rw [hchild] at hnext_toNat
    rw [hnext, ok_bind]
    have hdata := @sliceAt_agrees r.bytes (position - distance.toUInt64 + 4) length.toNat
      (by rw [hnext_toNat, UInt64.size]; omega)
    rw [hnext_toNat] at hdata
    exact hdata.mono fun part part' hp => hp.1

theorem Framed.string_agrees (h : r.Framed) :
    (r.string offset).Agrees Eq (r.table.string offset) := by
  refine (h.byteVector_agrees offset).bind ?_
  rintro data _ - rfl
  cases String.fromUTF8? data with
  | none => exact .error _
  | some text => exact .ok rfl

end Reader

/-- Reading at positions of 64 bits comes to the same, value or error, as reading at natural
numbers. -/
theorem reader_agrees (bytes : ByteArray) :
    (Reader.root bytes).Agrees (fun r t => r.table = t) (Table.root bytes) ∧
    ∀ r, Reader.root bytes = .ok r → ∀ offset : UInt16,
      r.has offset = (r.table.has offset).mapError .error ∧
      (∀ {α : Type} [Scalar α], Scalar.width α < UInt32.size → ∀ default : α,
        r.get offset default = (r.table.get offset default).mapError .error) ∧
      (∀ default, r.char offset default = (r.table.char offset default).mapError .error) ∧
      r.byteVector offset = (r.table.byteVector offset).mapError .error ∧
      r.string offset = (r.table.string offset).mapError .error := by
  refine ⟨Reader.root_agrees bytes, ?_⟩
  intro r hr offset
  have h := ((Reader.root_ends bytes).of_ok hr).2
  exact ⟨(h.has_agrees offset).eq, fun hw default => (h.get_agrees offset hw default).eq,
    fun default => (h.char_agrees offset default).eq, (h.byteVector_agrees offset).eq,
    (h.string_agrees offset).eq⟩

end RecordStore.Buffer

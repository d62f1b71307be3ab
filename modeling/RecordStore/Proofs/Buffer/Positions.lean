import RecordStore.Buffer.Reader
import RecordStore.Proofs.Buffer.Region
import RecordStore.Proofs.Text.Encoded

/-! Reading at positions of 64 bits, whatever the bytes are: no arithmetic on positions leaves its
width, and what is read lies within the bytes. -/
namespace RecordStore.Buffer

namespace Reading

section

variable {α β : Type} {x : Reading α} {found found' : α → Prop} {wrong wrong' : ReadError → Prop}

/-- A reading ends with a value or with an error, of which something is known, and not because of
arithmetic. -/
def Ends (x : Reading α) (found : α → Prop) (wrong : ReadError → Prop) : Prop :=
  (∃ a, x = .ok a ∧ found a) ∨ ∃ e, x = .fail e ∧ wrong e

namespace Ends

theorem ok {a : α} (h : found a) : Ends (.ok a) found wrong := .inl ⟨a, rfl, h⟩

theorem fail {e : ReadError} (h : wrong e) : Ends (.fail e : Reading α) found wrong :=
  .inr ⟨e, rfl, h⟩

theorem bind (h : x.Ends found wrong) {f : α → Reading β} {found' : β → Prop}
    (hf : ∀ a, x = .ok a → found a → (f a).Ends found' wrong) : (x >>= f).Ends found' wrong := by
  rcases h with ⟨a, rfl, ha⟩ | ⟨e, rfl, he⟩
  · exact hf a rfl ha
  · exact .fail he

theorem mono (h : x.Ends found wrong) (hf : ∀ a, found a → found' a)
    (hw : ∀ e, wrong e → wrong' e) : x.Ends found' wrong' := by
  rcases h with ⟨a, rfl, ha⟩ | ⟨e, rfl, he⟩
  · exact .ok (hf a ha)
  · exact .fail (hw e he)

theorem mono_wrong (h : x.Ends found wrong) (hw : ∀ e, wrong e → wrong' e) :
    x.Ends found wrong' := h.mono (fun _ => id) hw

theorem of_ok {a : α} (h : x.Ends found wrong) (hx : x = .ok a) : found a := by
  rcases h with ⟨a', rfl, ha⟩ | ⟨e, rfl, -⟩
  · cases hx
    exact ha
  · cases hx

end Ends

end

end Reading

/-- An error for want of bytes, of which there are `size`. -/
def OutOfBounds (size : Nat) (e : ReadError) : Prop :=
  ∃ position needed, e = .outOfBounds position needed size

/-- The bytes hold the value somewhere. -/
def Stored {α : Type} [Scalar α] (bytes : ByteArray) (value : α) : Prop :=
  ∃ part position, Lies part position bytes ∧ part.size = Scalar.width α ∧
    value = Scalar.ofBytes part

theorem lies_extract {bytes : ByteArray} {first last : Nat} (hf : first ≤ last)
    (hl : last ≤ bytes.size) : Lies (bytes.extract first last) first bytes := by
  refine ⟨bytes.extract 0 first, bytes.extract last bytes.size, ?_, ?_⟩
  · rw [← ByteArray.extract_eq_extract_append_extract first (Nat.zero_le _) hf,
      ← ByteArray.extract_eq_extract_append_extract last (Nat.zero_le _) hl,
      ByteArray.extract_zero_size]
  · rw [ByteArray.size_extract]
    omega

section

variable {bytes : ByteArray} {position distance : UInt64} {needed : Nat}

theorem forth_eq (h : position.toNat + distance.toNat < UInt64.size) :
    forth position distance = .ok (position + distance) ∧
      (position + distance).toNat = position.toNat + distance.toNat := by
  refine ⟨if_neg (Nat.not_le.mpr h), ?_⟩
  rw [UInt64.toNat_add]
  exact Nat.mod_eq_of_lt h

/-- A word leads from a position of 34 bits to one of 64 bits. -/
theorem forth_word (h : position.toNat < 4 * UInt32.size) (distance : UInt16) :
    forth position distance.toUInt64 = .ok (position + distance.toUInt64) ∧
      (position + distance.toUInt64).toNat = position.toNat + distance.toNat := by
  have hlt := distance.toNat_lt
  have hfit : position.toNat + distance.toUInt64.toNat < UInt64.size := by
    rw [UInt16.toNat_toUInt64, UInt64.size]
    rw [UInt32.size] at h
    omega
  have hforth := forth_eq hfit
  rwa [UInt16.toNat_toUInt64] at hforth

theorem back_eq (h : distance.toNat ≤ position.toNat) :
    back position distance = .ok (position - distance) ∧
      (position - distance).toNat = position.toNat - distance.toNat := by
  have hle : distance ≤ position := UInt64.le_iff_toNat_le.mpr h
  exact ⟨if_neg (UInt64.not_lt.mpr hle), UInt64.toNat_sub_of_le _ _ hle⟩

/-- From a position of 32 bits, a distance of 32 bits leads to one of 33 bits, or nowhere. -/
theorem back?_eq (hp : position.toNat < UInt32.size) (distance : Int32) :
    ∃ target, back? position distance.toInt64 = .ok target ∧
      target.map UInt64.toNat = (if (position.toNat : Int) - distance.toInt < 0 then none
        else some ((position.toNat : Int) - distance.toInt).toNat) ∧
      ∀ directory ∈ target, directory.toNat < 2 * UInt32.size := by
  have hlow := distance.le_toInt
  have hhigh := distance.toInt_lt
  have hmax : Int64.maxValue.toInt = 2 ^ 63 - 1 := by decide
  have hmin : Int64.minValue.toInt = -2 ^ 63 := by decide
  simp only [UInt32.size] at *
  rw [back?, Int32.toInt_toInt64, hmax, hmin, if_neg (by omega), if_neg (by omega)]
  by_cases hneg : (position.toNat : Int) - distance.toInt < 0
  · rw [if_pos hneg, if_pos hneg]
    exact ⟨none, rfl, rfl, by simp⟩
  · rw [if_neg hneg, if_neg hneg]
    have htarget : (UInt64.ofNat ((position.toNat : Int) - distance.toInt).toNat).toNat =
        ((position.toNat : Int) - distance.toInt).toNat :=
      UInt64.toNat_ofNat_of_lt' (by simp only [UInt64.size]; omega)
    refine ⟨some _, rfl, by rw [Option.map_some, htarget], ?_⟩
    rintro _ ⟨⟩
    rw [htarget]
    omega

/-- A slice is what lies at the position, or it is out of bounds. -/
theorem sliceAt_ends (bytes : ByteArray) (position : UInt64) (needed : Nat) :
    (sliceAt bytes position needed).Ends
      (fun part => Lies part position.toNat bytes ∧ part.size = needed)
      (OutOfBounds bytes.size) := by
  rw [sliceAt]
  split
  case isTrue h =>
    refine .ok ⟨lies_extract (Nat.le_add_right _ _) h.2, ?_⟩
    rw [ByteArray.size_extract]
    omega
  case isFalse => exact .fail ⟨_, _, rfl⟩

theorem sliceAt_ok (h : position.toNat + needed ≤ bytes.size)
    (hfit : position.toNat + needed < UInt64.size) :
    ∃ part, sliceAt bytes position needed = .ok part := ⟨_, if_pos ⟨hfit, h⟩⟩

theorem valueAt_ends {α : Type} [Scalar α] (bytes : ByteArray) (position : UInt64) :
    (valueAt bytes position : Reading α).Ends
      (fun value => Stored bytes value ∧ position.toNat + Scalar.width α ≤ bytes.size)
      (OutOfBounds bytes.size) := by
  refine (sliceAt_ends bytes position (Scalar.width α)).bind fun part _ hp => ?_
  have hle := hp.1.le_size
  rw [hp.2] at hle
  exact .ok ⟨⟨part, position.toNat, hp.1, hp.2, rfl⟩, hle⟩

theorem valueAt_ok {α : Type} [Scalar α] (h : position.toNat + Scalar.width α ≤ bytes.size)
    (hfit : position.toNat + Scalar.width α < UInt64.size) :
    ∃ value : α, valueAt bytes position = .ok value := by
  obtain ⟨part, hp⟩ := sliceAt_ok h hfit
  exact ⟨Scalar.ofBytes part, by rw [valueAt, hp]; rfl⟩

end

namespace Reader

/-- The directory and the table that it declares lie within the bytes. -/
structure Framed (r : Reader) : Prop where
  position_lt : r.position.toNat < UInt32.size
  directory_lt : r.directory.toNat < 2 * UInt32.size
  directory_le : r.directory.toNat + r.directorySize.toNat ≤ r.bytes.size
  table_le : ∃ length : UInt16, valueAt r.bytes (r.directory + 2) = .ok length ∧
    r.position.toNat + length.toNat ≤ r.bytes.size
  size_eq : ∃ size : UInt16, valueAt r.bytes r.directory = .ok size ∧
    r.directorySize = size.toUInt64
  header_le : directoryHeaderSize ≤ r.directorySize.toNat
  even : r.directorySize.toNat % 2 = 0

/-- What is wrong if no table is found. -/
def NoTable (size : Nat) (e : ReadError) : Prop :=
  OutOfBounds size e ∨ ∃ position flaw, e = .invalidTable position flaw

theorem atPosition_ends (bytes : ByteArray) {position : UInt64}
    (hp : position.toNat < UInt32.size) :
    (atPosition bytes position).Ends (fun r => r.bytes = bytes ∧ r.Framed)
      (NoTable bytes.size) := by
  have hshort (e : ReadError) (he : OutOfBounds bytes.size e) : NoTable bytes.size e := .inl he
  refine ((valueAt_ends bytes position).mono_wrong hshort).bind
    fun distance _ _ => ?_
  obtain ⟨target, htarget, -, hlt⟩ := back?_eq hp distance
  simp only [htarget, ok_bind]
  cases target with
  | none => exact .fail (.inr ⟨_, _, rfl⟩)
  | some directory =>
    have hdirectory := hlt directory rfl
    refine ((valueAt_ends bytes directory).mono_wrong hshort).bind
      fun size hsize _ => ?_
    split
    case isTrue => exact .fail (.inr ⟨_, _, rfl⟩)
    case isFalse hform =>
      rw [Bool.or_eq_true, decide_eq_true_eq, bne_iff_ne, not_or, Nat.not_lt,
        Decidable.not_not] at hform
      refine ((sliceAt_ends bytes directory size.toNat).mono_wrong hshort).bind
        fun part _ hpart => ?_
      have hdirectory_le := hpart.1.le_size
      rw [hpart.2] at hdirectory_le
      have hnext : forth directory 2 = .ok (directory + 2) := (forth_word (by omega) 2).1
      rw [hnext, ok_bind]
      refine ((valueAt_ends bytes (directory + 2)).mono_wrong hshort).bind
        fun length hlength _ => ?_
      refine ((sliceAt_ends bytes position length.toNat).mono_wrong hshort).bind
        fun table _ htable => ?_
      have htable_le := htable.1.le_size
      rw [htable.2] at htable_le
      have heven : size.toNat % 2 = 0 := by
        rw [← UInt16.toNat_inj, UInt16.toNat_mod] at hform
        exact hform.2
      exact .ok ⟨rfl, hp, hdirectory, by rwa [UInt16.toNat_toUInt64], ⟨length, hlength, htable_le⟩,
        ⟨size, hsize, rfl⟩, by rw [UInt16.toNat_toUInt64]; exact hform.1,
        by rwa [UInt16.toNat_toUInt64]⟩

theorem root_ends (bytes : ByteArray) :
    (root bytes).Ends (fun r => r.bytes = bytes ∧ r.Framed) (NoTable bytes.size) := by
  refine ((valueAt_ends bytes 0).mono_wrong fun _ => .inl).bind
    fun position _ _ => ?_
  split
  case isTrue => exact .fail (.inr ⟨_, _, rfl⟩)
  case isFalse =>
    refine atPosition_ends bytes ?_
    rw [UInt32.toNat_toUInt64]
    exact position.toNat_lt

variable {r : Reader}

theorem Framed.slotCount_eq (h : r.Framed) :
    ∃ n, r.slotCount = .ok n ∧ directoryHeaderSize + 2 * n.toNat = r.directorySize.toNat := by
  have hle : (4 : UInt64).toNat ≤ r.directorySize.toNat := h.header_le
  obtain ⟨hback, hcount⟩ := back_eq hle
  refine ⟨(r.directorySize - 4) / 2, by rw [slotCount, hback]; rfl, ?_⟩
  have hfour : (4 : UInt64).toNat = 4 := rfl
  have htwo : (2 : UInt64).toNat = 2 := rfl
  have := h.even
  rw [UInt64.toNat_div, hcount, hfour, htwo, directoryHeaderSize]
  omega

/-- The entry of a slot lies in the directory, and finding the field never fails. -/
theorem Framed.field?_eq (h : r.Framed) (offset : UInt16) :
    ∃ field, r.field? offset = .ok field ∧
      (offset.toNat < directoryHeaderSize ∨ r.directorySize.toNat < offset.toNat + 2 →
        field = none) ∧
      ∀ position ∈ field, position.toNat < 2 * UInt32.size := by
  by_cases hheader : offset.toNat < directoryHeaderSize
  · exact ⟨none, by rw [field?, if_pos hheader]; rfl, fun _ => rfl, nofun⟩
  have hoffset := offset.toNat_lt
  have hposition := h.position_lt
  have hdirectory := h.directory_lt
  have hdirectory_le := h.directory_le
  obtain ⟨hend, hend_toNat⟩ : forth offset.toUInt64 2 = .ok (offset.toUInt64 + 2) ∧
      (offset.toUInt64 + 2).toNat = offset.toUInt64.toNat + 2 :=
    forth_word (by rw [UInt16.toNat_toUInt64, UInt32.size]; omega) 2
  rw [UInt16.toNat_toUInt64] at hend_toNat
  rw [field?, if_neg hheader, hend, ok_bind]
  by_cases hlast : r.directorySize < offset.toUInt64 + 2
  · exact ⟨none, by rw [if_pos hlast]; rfl, fun _ => rfl, nofun⟩
  have hwithin : offset.toNat + 2 ≤ r.directorySize.toNat := by
    rw [UInt64.not_lt, UInt64.le_iff_toNat_le, hend_toNat] at hlast
    exact hlast
  obtain ⟨hentry, hentry_toNat⟩ := @forth_word r.directory (by omega) offset
  have hwidth : Scalar.width UInt16 = 2 := rfl
  simp only [UInt32.size] at hposition hdirectory ⊢
  obtain ⟨distance, hdistance⟩ := @valueAt_ok r.bytes (r.directory + offset.toUInt64) UInt16 _
    (by rw [hentry_toNat, hwidth]; omega) (by rw [hentry_toNat, hwidth, UInt64.size]; omega)
  have hdistance_lt := distance.toNat_lt
  obtain ⟨hfield, hfield_toNat⟩ :=
    @forth_word r.position (by rw [UInt32.size]; omega) distance
  rw [if_neg hlast, hentry, ok_bind, hdistance, ok_bind, hfield]
  by_cases hzero : distance = 0
  · exact ⟨none, by rw [if_pos hzero]; rfl, fun _ => rfl, nofun⟩
  · refine ⟨some (r.position + distance.toUInt64), by rw [if_neg hzero]; rfl, ?_, ?_⟩
    · rintro (ho | ho)
      · exact absurd ho hheader
      · omega
    · rintro _ ⟨⟩
      rw [hfield_toNat]
      omega

theorem has_of_field? {offset : UInt16} {field : Option UInt64}
    (h : r.field? offset = .ok field) : r.has offset = .ok field.isSome := by
  rw [has, h]
  rfl

theorem Framed.has_eq (h : r.Framed) (offset : UInt16) :
    ∃ found, r.has offset = .ok found ∧
      (offset.toNat < directoryHeaderSize ∨ r.directorySize.toNat - 1 ≤ offset.toNat →
        found = false) := by
  obtain ⟨field, hfield, hnone, -⟩ := h.field?_eq offset
  refine ⟨field.isSome, has_of_field? hfield, ?_⟩
  intro ho
  rw [hnone (by have := h.header_le; rw [directoryHeaderSize] at *; omega)]
  rfl

/-- What is read of a slot: what lies in the bytes, if it has a field, and else a value given. -/
def Gives {α : Type} (r : Reader) (offset : UInt16) (stored : α → Prop) (default value : α) : Prop :=
  (r.has offset = .ok true ∧ stored value) ∨ (r.has offset = .ok false ∧ value = default)

theorem Framed.get_ends (h : r.Framed) (offset : UInt16) {α : Type} [Scalar α] (default : α) :
    (r.get offset default).Ends (r.Gives offset (Stored r.bytes) default)
      (OutOfBounds r.bytes.size) := by
  obtain ⟨field, hfield, -⟩ := h.field?_eq offset
  have hhas := has_of_field? hfield
  rw [get, hfield, ok_bind]
  cases field with
  | none => exact .ok (.inr ⟨hhas, rfl⟩)
  | some position =>
    exact (valueAt_ends r.bytes position).mono (fun value hv => .inl ⟨hhas, hv.1⟩) fun _ => id

theorem Framed.char_ends (h : r.Framed) (offset : UInt16) (default : Char) :
    (r.char offset default).Ends
      (r.Gives offset (fun c => ∃ n : UInt32, Stored r.bytes n ∧ n = c.val) default)
      (fun e => OutOfBounds r.bytes.size e ∨ ∃ n, e = .invalidChar offset n) := by
  obtain ⟨field, hfield, -⟩ := h.field?_eq offset
  have hhas := has_of_field? hfield
  rw [char, hfield, ok_bind]
  cases field with
  | none => exact .ok (.inr ⟨hhas, rfl⟩)
  | some position =>
    refine ((valueAt_ends r.bytes position).mono_wrong fun _ => .inl).bind
      fun n _ hn => ?_
    split
    case isTrue hvalid =>
      refine .ok (.inl ⟨hhas, n, hn.1, ?_⟩)
      rw [← UInt32.toNat_inj, Char.ofNat, dif_pos hvalid]
      rfl
    case isFalse => exact .fail (.inr ⟨n, rfl⟩)

/-- The child of a field may lie anywhere in front of it, but for its data to lie in the bytes. -/
theorem Framed.byteVector_ends (h : r.Framed) (offset : UInt16) :
    (r.byteVector offset).Ends
      (r.Gives offset (fun data => ∃ position, Lies data position r.bytes) .empty)
      (fun e => OutOfBounds r.bytes.size e ∨
        e = .invalidTable r.position.toNat .childOutOfRange) := by
  obtain ⟨field, hfield, -, hlt⟩ := h.field?_eq offset
  have hhas := has_of_field? hfield
  rw [byteVector, hfield, ok_bind]
  cases field with
  | none => exact .ok (.inr ⟨hhas, rfl⟩)
  | some position =>
    have hposition := hlt position rfl
    refine ((valueAt_ends r.bytes position).mono_wrong fun _ => .inl).bind
      fun distance _ _ => ?_
    split
    case isTrue => exact .fail (.inr rfl)
    case isFalse hle =>
      rw [UInt64.not_lt, UInt64.le_iff_toNat_le] at hle
      have hchild := (back_eq hle).2
      refine ((valueAt_ends r.bytes (position - distance.toUInt64)).mono_wrong fun _ => .inl).bind
        fun length _ _ => ?_
      have hnext : forth (position - distance.toUInt64) 4 =
          .ok (position - distance.toUInt64 + 4) := (forth_word (by omega) 4).1
      rw [hnext, ok_bind]
      exact (sliceAt_ends r.bytes (position - distance.toUInt64 + 4) length.toNat).mono
        (fun data hd => .inl ⟨hhas, _, hd.1⟩) fun _ => .inl

theorem Framed.string_ends (h : r.Framed) (offset : UInt16) :
    (r.string offset).Ends
      (r.Gives offset (fun text => ∃ position, Lies text.toUTF8 position r.bytes) "")
      (fun e => OutOfBounds r.bytes.size e ∨
        e = .invalidTable r.position.toNat .childOutOfRange ∨ e = .invalidText offset) := by
  refine ((h.byteVector_ends offset).mono_wrong ?_).bind fun data _ hd => ?_
  · rintro e (he | he)
    · exact .inl he
    · exact .inr (.inl he)
  cases ht : String.fromUTF8? data with
  | none => exact .fail (.inr (.inr rfl))
  | some text =>
    obtain rfl := fromUTF8?_eq_some.mp ht
    rcases hd with ⟨hhas, hd⟩ | ⟨hhas, hd⟩
    · exact .ok (.inl ⟨hhas, hd⟩)
    · rw [hd] at ht
      exact .ok (.inr ⟨hhas, (Option.some.inj ht).symm⟩)

end Reader

/-- Whatever the bytes are, looking for their table ends with the table or with an error. A table
that was found lies in the bytes, and so does its directory, whose size stands there, is even and
has room for the header; every slot is there or not, and is not where the directory says nothing. What is read
of a slot lies in the bytes, or is what was given for a slot that is not there. No arithmetic on
positions leaves 64 bits. -/
theorem reader_stays_within (bytes : ByteArray) :
    (Reader.root bytes).Ends (fun r => r.bytes = bytes) (Reader.NoTable bytes.size) ∧
    ∀ r, Reader.root bytes = .ok r →
      r.directory.toNat + r.directorySize.toNat ≤ bytes.size ∧
      (∃ size : UInt16, valueAt bytes r.directory = .ok size ∧ r.directorySize = size.toUInt64) ∧
      (∃ length : UInt16, valueAt bytes (r.directory + 2) = .ok length ∧
        r.position.toNat + length.toNat ≤ bytes.size) ∧
      r.directorySize.toNat % 2 = 0 ∧ 4 ≤ r.directorySize.toNat ∧
      (∃ n, r.slotCount = .ok n ∧ 4 + 2 * n.toNat = r.directorySize.toNat) ∧
      ∀ offset : UInt16,
        (∃ found, r.has offset = .ok found ∧
          (offset.toNat < 4 ∨ r.directorySize.toNat - 1 ≤ offset.toNat → found = false)) ∧
        (∀ {α : Type} [Scalar α] (default : α),
          (r.get offset default).Ends (r.Gives offset (Stored bytes) default)
            (OutOfBounds bytes.size)) ∧
        (∀ default,
          (r.char offset default).Ends
            (r.Gives offset (fun c => ∃ n : UInt32, Stored bytes n ∧ n = c.val) default)
            (fun e => OutOfBounds bytes.size e ∨ ∃ n, e = .invalidChar offset n)) ∧
        (r.byteVector offset).Ends
          (r.Gives offset (fun data => ∃ position, Lies data position bytes) .empty)
          (fun e => OutOfBounds bytes.size e ∨
            e = .invalidTable r.position.toNat .childOutOfRange) ∧
        (r.string offset).Ends
          (r.Gives offset (fun text => ∃ position, Lies text.toUTF8 position bytes) "")
          (fun e => OutOfBounds bytes.size e ∨
            e = .invalidTable r.position.toNat .childOutOfRange ∨ e = .invalidText offset) := by
  refine ⟨(Reader.root_ends bytes).mono (fun _ h => h.1) fun _ => id, ?_⟩
  intro r hr
  obtain ⟨rfl, h⟩ := (Reader.root_ends bytes).of_ok hr
  refine ⟨h.directory_le, h.size_eq, h.table_le, h.even, h.header_le, h.slotCount_eq, ?_⟩
  intro offset
  exact ⟨h.has_eq offset, fun default => h.get_ends offset default, h.char_ends offset,
    h.byteVector_ends offset, h.string_ends offset⟩

/-- A slot whose child would lie in front of the bytes. -/
example :
    (Reader.root ⟨#[10, 0, 0, 0, 6, 0, 8, 0, 4, 0, 6, 0, 0, 0, 255, 255, 255, 255]⟩ >>= fun r =>
      r.byteVector 4) = .fail (.invalidTable 10 .childOutOfRange) := by rfl

end RecordStore.Buffer

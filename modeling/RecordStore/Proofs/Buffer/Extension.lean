import RecordStore.Proofs.Buffer.Reading

/-! Buffers with more bytes behind them: reading the longer one comes to the same, unless the
shorter one ends too early. -/
namespace RecordStore.Buffer

universe u

/-- A reading that ends because bytes of this number are too few. -/
def RunsShort {α : Type u} (size : Nat) (x : Except ReadError α) : Prop :=
  ∃ position needed, x = .error (.outOfBounds position needed size)

/-- A reading of bytes of the given number comes to the same as one of more bytes, unless it runs
short. -/
def Continues {α β : Type u} (size : Nat) (f : α → β) (x : Except ReadError α)
    (y : Except ReadError β) : Prop :=
  RunsShort size x ∨ y = x.map f

namespace Continues

variable {α β γ δ : Type u} {size : Nat} {f : α → β} {g : γ → δ}

theorem ok (a : α) : Continues size f (.ok a) (.ok (f a)) := .inr rfl

theorem error (e : ReadError) : Continues size f (.error e) (.error e) := .inr rfl

theorem bind {x : Except ReadError α} {y : Except ReadError β} (h : Continues size f x y)
    {k : α → Except ReadError γ} {l : β → Except ReadError δ}
    (hk : ∀ a, Continues size g (k a) (l (f a))) : Continues size g (x >>= k) (y >>= l) := by
  rcases h with ⟨position, needed, rfl⟩ | rfl
  · exact .inl ⟨position, needed, rfl⟩
  · cases x with
    | error e => exact error e
    | ok a => exact hk a

/-- What was read is read from the longer bytes as well. -/
theorem of_ok {a : α} {y : Except ReadError β} (h : Continues size f (.ok a) y) :
    y = .ok (f a) := by
  rcases h with ⟨position, needed, h⟩ | rfl
  · cases h
  · rfl

end Continues

section

variable (bytes more : ByteArray)

theorem continues_slice (position needed : Nat) :
    Continues bytes.size id (slice bytes position needed)
      (slice (bytes ++ more) position needed) := by
  by_cases h : position + needed ≤ bytes.size
  · have hle : position + needed ≤ (bytes ++ more).size := by
      rw [ByteArray.size_append]
      omega
    have hnone :
        more.extract (position - bytes.size) (position + needed - bytes.size) = .empty := by
      rw [← ByteArray.size_eq_zero_iff, ByteArray.size_extract]
      omega
    rw [slice, slice, if_pos h, if_pos hle, ByteArray.extract_append, hnone,
      ByteArray.append_empty]
    exact .ok _
  · exact .inl ⟨position, needed, if_neg h⟩

theorem continues_number (width position : Nat) :
    Continues bytes.size id (number width bytes position)
      (number width (bytes ++ more) position) :=
  (continues_slice bytes more position width).bind fun _ => .ok _

end

namespace Table

/-- The table of the buffer with more bytes behind it. -/
def extend (more : ByteArray) (t : Table) : Table := { t with bytes := t.bytes ++ more }

variable (bytes more : ByteArray)

theorem continues_atPosition (position : Nat) :
    Continues bytes.size (extend more) (atPosition bytes position)
      (atPosition (bytes ++ more) position) := by
  refine (continues_number bytes more 4 position).bind fun back => ?_
  simp only [throw_eq_error, error_bind, id_eq]
  split
  · exact .error _
  refine (continues_number bytes more 2 _).bind fun size => ?_
  simp only [id_eq]
  split
  · exact .error _
  refine (continues_slice bytes more _ size).bind fun _ => ?_
  refine (continues_number bytes more 2 _).bind fun length => ?_
  exact (continues_slice bytes more position length).bind fun _ => .ok _

theorem continues_root :
    Continues bytes.size (extend more) (root bytes) (root (bytes ++ more)) := by
  refine (continues_number bytes more 4 0).bind fun position => ?_
  simp only [throw_eq_error, error_bind, id_eq]
  split
  · exact .error _
  · exact continues_atPosition bytes more position

variable (t : Table) (offset : UInt16)

theorem continues_field? :
    Continues t.bytes.size id (t.field? offset) ((t.extend more).field? offset) := by
  by_cases h : offset.toNat < directoryHeaderSize ∨ t.directorySize < offset.toNat + 2
  · rw [field?, field?, if_pos h, if_pos (show _ ∨ (t.extend more).directorySize < _ from h)]
    exact .ok _
  · rw [field?, field?, if_neg h, if_neg (show ¬ (_ ∨ (t.extend more).directorySize < _) from h)]
    exact (continues_number t.bytes more 2 _).bind fun distance => .ok _

theorem continues_get {α : Type} [Scalar α] (default : α) :
    Continues t.bytes.size id (t.get offset default) ((t.extend more).get offset default) := by
  refine (t.continues_field? more offset).bind fun field => ?_
  cases field with
  | none => exact .ok _
  | some position =>
    exact (continues_slice t.bytes more position (Scalar.width α)).bind fun _ => .ok _

theorem continues_char (default : Char) :
    Continues t.bytes.size id (t.char offset default) ((t.extend more).char offset default) := by
  refine (t.continues_field? more offset).bind fun field => ?_
  cases field with
  | none => exact .ok _
  | some position =>
    refine (continues_number t.bytes more 4 position).bind fun n => ?_
    simp only [id_eq]
    split
    · exact .ok _
    · exact .error _

theorem continues_byteVector :
    Continues t.bytes.size id (t.byteVector offset) ((t.extend more).byteVector offset) := by
  refine (t.continues_field? more offset).bind fun field => ?_
  cases field with
  | none => exact .ok _
  | some position =>
    refine (continues_number t.bytes more 4 position).bind fun back => ?_
    simp only [throw_eq_error, error_bind, id_eq]
    split
    · exact .error _
    · refine (continues_number t.bytes more 4 _).bind fun length => ?_
      exact continues_slice t.bytes more _ length

theorem continues_string :
    Continues t.bytes.size id (t.string offset) ((t.extend more).string offset) := by
  refine (t.continues_byteVector more offset).bind fun data => ?_
  simp only [id_eq]
  split
  · exact .ok _
  · exact .error _

/-- A table that was found lies within its buffer. -/
theorem of_root {t : Table} (h : root bytes = .ok t) :
    t.bytes = bytes ∧ ∃ length, number 2 bytes (t.directory + 2) = .ok length ∧
      t.position + length ≤ bytes.size := by
  obtain ⟨position, -, h⟩ := bind_eq_ok.mp h
  obtain ⟨-, h⟩ := ite_error_eq_ok.mp h
  obtain ⟨back, -, h⟩ := bind_eq_ok.mp h
  obtain ⟨-, h⟩ := ite_error_eq_ok.mp h
  obtain ⟨size, -, h⟩ := bind_eq_ok.mp h
  obtain ⟨-, h⟩ := ite_error_eq_ok.mp h
  obtain ⟨-, -, h⟩ := bind_eq_ok.mp h
  obtain ⟨length, hl, h⟩ := bind_eq_ok.mp h
  obtain ⟨part, hp, he⟩ := bind_eq_ok.mp h
  cases he
  refine ⟨rfl, length, hl, ?_⟩
  rw [slice] at hp
  split at hp
  · assumption
  · cases hp

end Table

/-- A table that ends its buffer is not found if any byte of the buffer is missing: the bytes are
then too few. -/
theorem Standing.root_runsShort {t : OpenTable} {position : Nat} {front back : ByteArray}
    (h : Standing t position (front ++ back))
    (hroot : Table.root (front ++ back) = .ok (t.view position (front ++ back)))
    (hend : position + t.bodySize = (front ++ back).size) (hback : back ≠ .empty) :
    RunsShort front.size (Table.root front) := by
  rcases Table.continues_root front back with hshort | hc
  · exact hshort
  -- Otherwise the table would be found in front of the missing bytes, where it has no room.
  · rw [hroot] at hc
    obtain ⟨found, hfound, hview⟩ := map_eq_ok.mp hc.symm
    obtain ⟨-, length, hlength, hle⟩ := Table.of_root front hfound
    have hlong := (hlength ▸ continues_number front back 2 (found.directory + 2)).of_ok
    have hposition : found.position = position := congrArg Table.position hview
    have hdirectory : found.directory = position - t.directorySize :=
      congrArg Table.directory hview
    rw [hdirectory, h.number_bodySize, Except.ok.injEq, id_eq] at hlong
    have hnone : back.size = 0 := by
      rw [ByteArray.size_append] at hend
      omega
    exact absurd (ByteArray.size_eq_zero_iff.mp hnone) hback

end RecordStore.Buffer

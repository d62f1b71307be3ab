/-! Texts as bytes: what decodes to a text, and the one byte that breaks lines. -/
namespace RecordStore

theorem fromUTF8?_eq_some {bytes : ByteArray} {s : String} :
    String.fromUTF8? bytes = some s ↔ bytes = s.toUTF8 := by
  constructor
  · intro h
    rw [String.fromUTF8?] at h
    split at h
    · cases h
      rfl
    · cases h
  · rintro rfl
    rw [String.toUTF8_eq_toByteArray, String.fromUTF8?, dif_pos s.isValidUTF8]
    rfl

/-- A line break is written as its own byte, which no other character is written with. -/
theorem mem_utf8EncodeChar_iff {c : Char} : 10 ∈ String.utf8EncodeChar c ↔ c = '\n' := by
  have hbyte {n : Nat} (hl : 128 ≤ n) (hh : n < 256) : ¬ (10 : UInt8) = UInt8.ofNat n := by
    intro he
    have hn := congrArg UInt8.toNat he
    rw [UInt8.toNat_ofNat_of_lt' hh] at hn
    exact absurd (hn ▸ hl) (by decide)
  constructor
  · intro h
    rw [String.utf8EncodeChar.eq_1] at h
    by_cases hascii : c.val.toNat ≤ 127
    · rw [if_pos hascii, List.mem_singleton] at h
      have hn := congrArg UInt8.toNat h
      rw [UInt8.toNat_ofNat_of_lt' (Nat.lt_of_le_of_lt hascii (by decide))] at hn
      exact Char.ext (UInt32.toNat_inj.mp hn.symm)
    · rw [if_neg hascii] at h
      -- Every byte of a longer character has its highest bit set.
      split at h
      · simp only [List.mem_cons, List.not_mem_nil, or_false] at h
        rcases h with h | h <;> exact absurd h (hbyte (by omega) (by omega))
      · split at h
        · simp only [List.mem_cons, List.not_mem_nil, or_false] at h
          rcases h with h | h | h <;> exact absurd h (hbyte (by omega) (by omega))
        · simp only [List.mem_cons, List.not_mem_nil, or_false] at h
          rcases h with h | h | h | h <;> exact absurd h (hbyte (by omega) (by omega))
  · rintro rfl
    decide

theorem mem_toUTF8_iff {s : String} : 10 ∈ s.toUTF8.data.toList ↔ '\n' ∈ s.toList := by
  rw [String.toUTF8_eq_toByteArray, ← String.utf8Encode_toList, List.utf8Encode,
    List.data_toByteArray, List.toList_toArray, List.mem_flatMap]
  simp only [mem_utf8EncodeChar_iff]
  exact exists_eq_right

end RecordStore

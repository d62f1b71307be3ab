import RecordStore.Proofs.Text.Blanks
import RecordStore.Proofs.Text.Encoded
import RecordStore.Source.Folder

/-! Files that open with the header of generated source, told by their bytes; generated units do. -/
namespace RecordStore

namespace Folder

/-- A file opens with a line, which a line break or the end of the file ends. -/
def OpensWith (line : String) (contents : ByteArray) : Prop :=
  '\n' ∉ line.toList ∧
    (contents = line.toUTF8 ∨ ∃ rest, contents = (line ++ "\n").toUTF8 ++ rest)

theorem bytes_ext {b b' : ByteArray} (h : b.data.toList = b'.data.toList) : b = b' :=
  ByteArray.ext (Array.toList_inj.mp h)

theorem toList_toUTF8_line (line : String) :
    (line ++ "\n").toUTF8.data.toList = line.toUTF8.data.toList ++ [10] := by
  rw [String.toUTF8_eq_toByteArray, String.toByteArray_append, ByteArray.data_append,
    Array.toList_append]
  rfl

/-- The first line is the one that the file opens with, if it is a text at all. -/
theorem firstLine?_eq_some {contents : ByteArray} {line : String} :
    firstLine? contents = some line ↔ OpensWith line contents := by
  rw [firstLine?, fromUTF8?_eq_some]
  constructor
  · intro h
    have hfirst : contents.data.toList.takeWhile (· != 10) = line.toUTF8.data.toList := by
      rw [← h]
    have hsplit := List.takeWhile_append_dropWhile (p := (· != 10)) (l := contents.data.toList)
    rw [hfirst] at hsplit
    refine ⟨fun hn => ?_, ?_⟩
    · rw [← mem_toUTF8_iff, ← hfirst] at hn
      simpa using List.all_eq_true.mp List.all_takeWhile _ hn
    · cases hrest : contents.data.toList.dropWhile (· != 10) with
      | nil =>
        rw [hrest, List.append_nil] at hsplit
        exact .inl (bytes_ext hsplit.symm)
      | cons byte rest =>
        have hbyte : byte = 10 := by
          have hhead := List.head?_dropWhile_not (· != 10) contents.data.toList
          simpa [hrest] using hhead
        rw [hrest, hbyte] at hsplit
        refine .inr ⟨⟨rest.toArray⟩, bytes_ext ?_⟩
        rw [ByteArray.data_append, Array.toList_append, toList_toUTF8_line, ← hsplit]
        simp
  · rintro ⟨hn, hcontents⟩
    have hline : ∀ byte ∈ line.toUTF8.data.toList, (byte != 10) = true := by
      intro byte hb
      rw [bne_iff_ne]
      rintro rfl
      exact hn (mem_toUTF8_iff.mp hb)
    refine bytes_ext ?_
    rcases hcontents with rfl | ⟨rest, rfl⟩
    · rw [List.toList_toArray, ← List.append_nil line.toUTF8.data.toList,
        List.takeWhile_append_of_pos hline, List.takeWhile_nil]
    · rw [List.toList_toArray, ByteArray.data_append, Array.toList_append, toList_toUTF8_line,
        List.append_assoc, List.takeWhile_append_of_pos hline]
      simp

/-- What counts as generated: the first line is the header, with or without blanks behind it. -/
theorem isGenerated_iff {contents : ByteArray} :
    isGenerated contents = true ↔
      ∃ blanks : List Char, (∀ c ∈ blanks, Text.isBlank c = true) ∧
        OpensWith (sourceHeader ++ String.ofList blanks) contents := by
  rw [isGenerated, Option.any_eq_true]
  simp only [beq_iff_eq, firstLine?_eq_some]
  constructor
  · rintro ⟨line, hopens, hline⟩
    obtain ⟨blanks, hblanks, hsplit⟩ := Text.exists_trimEnd_append line.toList
    refine ⟨blanks, hblanks, ?_⟩
    have heq : sourceHeader ++ String.ofList blanks = line := by
      apply String.toList_injective
      rw [String.toList_append, String.toList_ofList, ← hline, ← hsplit]
    rwa [heq]
  · rintro ⟨blanks, hblanks, hopens⟩
    refine ⟨_, hopens, ?_⟩
    rw [String.toList_append, String.toList_ofList, Text.trimEnd_append_blanks _ hblanks]
    decide

end Folder

/-- Every generated unit counts as generated. -/
theorem SourceUnit.isGenerated_contents (u : SourceUnit) :
    Folder.isGenerated u.contents.toUTF8 = true := by
  refine Folder.isGenerated_iff.mpr
    ⟨[], by simp, by decide, .inr ⟨("\n" ++ u.code ++ "\n").toUTF8, ?_⟩⟩
  rw [SourceUnit.contents]
  simp only [String.toUTF8_eq_toByteArray, ← String.toByteArray_append]
  rfl

end RecordStore

import RecordStore.Text.Identifier
import RecordStore.Text.Words

/-! Texts that are read as identifiers letter for letter. The words of identifiers are such texts,
and stay so in constant case. -/
namespace RecordStore.Text

namespace CodeRanges

/-- Whether no code point is in both sets. -/
def disjoint (a b : CodeRanges) : Bool :=
  a.all fun (low, high) => b.all fun (low', high') => high < low' || high' < low

theorem contains_eq_false_of_disjoint {a b : CodeRanges} (h : a.disjoint b = true) {c : Char}
    (hc : a.contains c = true) : b.contains c = false := by
  obtain ⟨low, high, hm, hl, hh⟩ := (contains_iff a c).mp hc
  refine Bool.eq_false_iff.mpr fun hb => ?_
  obtain ⟨low', high', hm', hl', hh'⟩ := (contains_iff b c).mp hb
  have hapart := List.all_eq_true.mp (List.all_eq_true.mp h _ hm) _ hm'
  simp only [Bool.or_eq_true, decide_eq_true_eq] at hapart
  omega

end CodeRanges

/-- What holds of the first 128 characters holds of every ASCII character. -/
theorem ascii_induction {p : Char → Prop} (h : ∀ n < 0x80, p (Char.ofNat n)) {c : Char}
    (hc : c.toNat < 0x80) : p c := Char.ofNat_toNat c ▸ h c.toNat hc

namespace Identifier

/-- Where texts of identifiers come apart: the mark of raw identifiers, comments, white space,
marks of direction and the one of byte order. -/
def borders : CodeRanges :=
  [(0x23, 0x23), (0x2F, 0x2F), (0x200E, 0x200F), (0xFEFF, 0xFEFF)] ++ blanks

/-- A text without a border. -/
def Plain (s : List Char) : Prop := ∀ c ∈ s, borders.contains c = false

end Identifier

namespace LetterCase

open Identifier (borders Plain)

/-- The code points that counterparts are made of. -/
def targets (runs : List Run) (sequences : List (Nat × List Nat)) : CodeRanges :=
  runs.map (fun r => ((r.low + r.shift).toNat, (r.high + r.shift).toNat)) ++
    sequences.flatMap fun (_, s) => s.map fun n => (n, n)

/-- A number that is no character stands for one that is plain too. -/
theorem contains_borders_ofNat {ranges : CodeRanges} (h : ranges.disjoint borders = true)
    {low high n : Nat} (hm : (low, high) ∈ ranges) (hl : low ≤ n) (hh : n ≤ high) :
    borders.contains (Char.ofNat n) = false := by
  by_cases hv : n.isValidChar
  · have hn : (Char.ofNat n).toNat = n := by
      rw [Char.ofNat, dif_pos hv]
      rfl
    refine CodeRanges.contains_eq_false_of_disjoint h
      ((CodeRanges.contains_iff ..).mpr ⟨low, high, hm, ?_⟩)
    rw [hn]
    exact ⟨hl, hh⟩
  · rw [Char.ofNat, dif_neg hv]
    decide

/-- A counterpart is plain if the tables lead to plain characters only. -/
theorem plain_counterpart {runs : List Run} {sequences : List (Nat × List Nat)}
    (h : (targets runs sequences).disjoint borders = true) {c : Char}
    (hc : borders.contains c = false) : Plain (counterpart runs sequences c) := by
  rw [counterpart]
  cases hrun : runs.find? (·.covers c.toNat) with
  | some r =>
    obtain ⟨hcovers, -⟩ := List.find?_eq_some_iff_append.mp hrun
    simp only [Run.covers, Bool.and_eq_true, decide_eq_true_eq] at hcovers
    have hm := List.mem_map_of_mem (f := fun r : Run =>
      ((r.low + r.shift).toNat, (r.high + r.shift).toNat)) (List.mem_of_find?_eq_some hrun)
    exact List.forall_mem_singleton.mpr (contains_borders_ofNat h
      (List.mem_append_left _ hm) (by omega) (by omega))
  | none =>
    cases hseq : sequences.find? (·.1 == c.toNat) with
    | some entry =>
      refine List.forall_mem_map.mpr fun n hn => contains_borders_ofNat h
        (List.mem_append_right _ (List.mem_flatMap.mpr ⟨entry, ?_, List.mem_map_of_mem hn⟩))
        (Nat.le_refl n) (Nat.le_refl n)
      exact List.mem_of_find?_eq_some hseq
    | none => exact List.forall_mem_singleton.mpr hc

theorem plain_upper {c : Char} (hc : borders.contains c = false) : Plain (upper c) := by
  rw [upper]
  by_cases hascii : c.toNat < 0x80
  · rw [if_pos hascii]
    refine List.forall_mem_singleton.mpr ?_
    exact ascii_induction
      (p := fun c => borders.contains c = false → borders.contains c.toUpper = false)
      (by decide +kernel) hascii hc
  · rw [if_neg hascii]
    exact plain_counterpart (by decide +kernel) hc

end LetterCase

namespace Words

theorem mem_of_mem_split {current word : List Char} {gs : List (List Char × Kind)} {c : Char}
    (hw : word ∈ split current gs) (hc : c ∈ word) : c ∈ current ∨ ∃ g ∈ gs, c ∈ g.1 := by
  induction gs generalizing current with
  | nil =>
    rw [split, List.mem_singleton] at hw
    exact .inl (hw ▸ hc)
  | cons g gs ih =>
    obtain ⟨g, k⟩ := g
    -- Each way to go on keeps what was read, or starts a word with nothing.
    have hnext {begun : List Char} (hw : word ∈ split begun gs)
        (hb : ∀ d ∈ begun, d ∈ current ∨ d ∈ g) : c ∈ current ∨ ∃ h ∈ (g, k) :: gs, c ∈ h.1 := by
      rcases ih hw with hbegun | ⟨h, hh, hch⟩
      · exact (hb c hbegun).imp id fun hg => ⟨_, List.mem_cons_self, hg⟩
      · exact .inr ⟨h, List.mem_cons_of_mem _ hh, hch⟩
    have happend : ∀ d ∈ current ++ g, d ∈ current ∨ d ∈ g := fun d hd => List.mem_append.mp hd
    rw [split] at hw
    split at hw
    · rcases List.mem_cons.mp hw with rfl | hw
      · exact .inl hc
      · exact hnext hw (by simp)
    · split at hw
      · rcases List.mem_cons.mp hw with rfl | hw
        · exact (happend c hc).imp id fun hg => ⟨_, List.mem_cons_self, hg⟩
        · exact hnext hw (by simp)
      · exact hnext hw happend

/-- Words have no characters that their name has not. -/
theorem mem_of_mem_ofName {name : String} {word : List Char} {c : Char} (hw : word ∈ ofName name)
    (hc : c ∈ word) : c ∈ name.toList := by
  rw [ofName] at hw
  split at hw
  · cases hw
  · rcases mem_of_mem_split hw hc with hnil | ⟨g, hg, hcg⟩
    · cases hnil
    · obtain ⟨cluster, hcluster, rfl⟩ := List.mem_map.mp hg
      rw [← Grapheme.flatten_clusters name.toList]
      exact List.mem_flatten_of_mem hcluster hcg

theorem mem_intercalate {sep : List Char} {words : List (List Char)} {c : Char}
    (h : c ∈ List.intercalate sep words) : c ∈ sep ∨ ∃ word ∈ words, c ∈ word := by
  induction words with
  | nil => cases h
  | cons word words ih =>
    cases words with
    | nil =>
      rw [List.intercalate, List.intersperse_singleton, List.flatten_singleton] at h
      exact .inr ⟨word, List.mem_cons_self, h⟩
    | cons next words =>
      rw [List.intercalate, List.intersperse_cons_cons, List.flatten_cons, List.flatten_cons,
        List.mem_append, List.mem_append] at h
      rcases h with h | h | h
      · exact .inr ⟨word, List.mem_cons_self, h⟩
      · exact .inl h
      · refine (ih h).imp id fun ⟨other, ho, hc⟩ => ⟨other, List.mem_cons_of_mem _ ho, hc⟩

/-- A plain name is plain in constant case. -/
theorem plain_constant {name : String} (h : Identifier.Plain name.toList) :
    Identifier.Plain (constant name).toList := by
  intro d hd
  rw [constant, String.toList_ofList] at hd
  rcases mem_intercalate hd with hsep | ⟨word, hword, hd⟩
  · rw [List.mem_singleton.mp hsep]
    decide
  · obtain ⟨lower, hlower, rfl⟩ := List.mem_map.mp hword
    obtain ⟨c, hc, hd⟩ := List.mem_flatMap.mp hd
    exact LetterCase.plain_upper (h c (mem_of_mem_ofName hlower hc)) d hd

end Words

namespace Identifier

theorem isGap_eq_false {c : Char} (h : borders.contains c = false) : isGap c = false := by
  have hmark (d : Char) (hd : borders.contains d = true) : (c == d) = false := by
    refine beq_eq_false_iff_ne.mpr fun he => ?_
    rw [he, hd] at h
    cases h
  rw [isGap, hmark _ (by decide), hmark _ (by decide), Bool.or_false, Bool.or_false, isBlank]
  rw [borders, CodeRanges.contains, List.any_append, Bool.or_eq_false_iff] at h
  exact h.2

/-- Plain text begins with no blank and no comment. -/
theorem skipGap_of_plain {s : List Char} (h : Plain s) : skipGap s = s := by
  rw [skipGap.eq_def]
  split
  · exact absurd (h '/' List.mem_cons_self) (by decide)
  · exact absurd (h '/' List.mem_cons_self) (by decide)
  · rw [isGap_eq_false (h _ List.mem_cons_self)]
    rfl
  · rfl

theorem plain_of_continues {s : List Char} (h : ∀ c ∈ s, continues c = true) : Plain s := by
  intro c hc
  have hcont := h c hc
  by_cases hascii : c.toNat < 0x80
  · exact ascii_induction (p := fun c => continues c = true → borders.contains c = false)
      (by decide +kernel) hascii hcont
  · rw [continues, opens, if_neg hascii, if_neg hascii, Bool.or_eq_true] at hcont
    rcases hcont with hopen | hinner
    · exact CodeRanges.contains_eq_false_of_disjoint (by decide +kernel) hopen
    · exact CodeRanges.contains_eq_false_of_disjoint (by decide +kernel) hinner

theorem dropMark_of_plain {s : List Char} (h : Plain s) : dropMark s = s := by
  rw [dropMark.eq_def]
  split
  · exact absurd (h _ List.mem_cons_self) (by decide)
  · rfl

variable {i : Identifier}

/-- What is scanned: the mark decides whether the word is raw, and only what may stand in a word is
taken. -/
theorem of_scan {s rest : List Char} (h : scan s = some (i, rest)) :
    i.raw = (s.take 2 == ['r', '#']) ∧
      (if i.raw then s.drop 2 else s) = i.name.toList ++ rest ∧
      ∀ c ∈ i.name.toList, continues c = true := by
  rw [scan] at h
  cases hword : if s.take 2 == ['r', '#'] then s.drop 2 else s with
  | nil =>
    rw [hword] at h
    cases h
  | cons c tail =>
    rw [hword] at h
    dsimp only at h
    split at h
    · cases h
    · next hgood =>
      cases h
      refine ⟨rfl, ?_, ?_⟩
      · rw [hword, String.toList_ofList, List.cons_append, List.takeWhile_append_dropWhile]
      · rw [String.toList_ofList, List.forall_mem_cons]
        refine ⟨?_, fun d hd => List.all_eq_true.mp List.all_takeWhile d hd⟩
        simp only [Bool.or_eq_true, not_or, Bool.not_eq_true'] at hgood
        rw [continues, Bool.of_not_eq_false hgood.1, Bool.true_or]

theorem plain_of_parse? {s : String} (h : parse? s = some i) : Plain i.name.toList := by
  obtain ⟨⟨j, rest⟩, hscan, h⟩ := Option.bind_eq_some_iff.mp h
  simp only [Option.ite_none_left_eq_some, Option.some.injEq] at h
  rw [← h.2]
  exact plain_of_continues (of_scan hscan).2.2

/-- A plain text that is an identifier is that identifier, and not a raw one. -/
theorem eq_of_parse?_of_plain {s : String} (hs : Plain s.toList) (h : parse? s = some i) :
    i = ⟨false, s⟩ := by
  obtain ⟨⟨j, rest⟩, hscan, h⟩ := Option.bind_eq_some_iff.mp h
  rw [dropMark_of_plain hs, skipGap_of_plain hs] at hscan
  simp only [Option.ite_none_left_eq_some, Option.some.injEq] at h
  obtain ⟨hend, rfl⟩ := h
  obtain ⟨hraw, hsplit, -⟩ := of_scan hscan
  have hnot : j.raw = false := by
    rw [hraw]
    refine beq_eq_false_iff_ne.mpr fun htake => ?_
    have hsharp : '#' ∈ s.toList.take 2 := by simp [htake]
    exact absurd (hs '#' (List.mem_of_mem_take hsharp)) (by decide)
  simp only [hnot, Bool.false_eq_true, if_false] at hsplit
  have hrest : Plain rest := fun c hc => hs c (hsplit ▸ List.mem_append_right _ hc)
  rw [skipGap_of_plain hrest] at hend
  have hnil : rest = [] := by
    cases rest with
    | nil => rfl
    | cons c rest => exact absurd rfl hend
  rw [hnil, List.append_nil] at hsplit
  rw [String.toList_injective hsplit, ← hnot]

end Identifier

end RecordStore.Text

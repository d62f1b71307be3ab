import RecordStore.Proofs.Schema.RoundTrip
import RecordStore.Proofs.Source.Entries
import RecordStore.Proofs.Source.Header

/-! Generated source in a folder: what writing it puts there, what it clears away and what it leaves
alone. -/
namespace RecordStore

/-- The last of some units with a name. -/
def SourceUnit.last? (units : List SourceUnit) (fileName : String) : Option SourceUnit :=
  units.reverse.find? (·.fileName == fileName)

namespace SourceUnit

variable {units : List SourceUnit} {u : SourceUnit} {fileName : String}

theorem last?_cons : last? (u :: units) fileName =
    (last? units fileName).or (if u.fileName = fileName then some u else none) := by
  rw [last?, List.reverse_cons, List.find?_append, List.find?_singleton, last?]
  simp only [beq_iff_eq]

theorem last?_eq_none : last? units fileName = none ↔ ∀ u ∈ units, u.fileName ≠ fileName := by
  simp [last?, List.find?_eq_none]

end SourceUnit

def FolderEntry.isFolder : FolderEntry → Bool
  | .file _ => false
  | .folder _ => true

namespace Folder

variable {f g : Folder} {name : String} {contents : ByteArray}

/-- Whether a file can be written under a name: it is one of a file, and no folder has it. -/
def CanHold (f : Folder) (name : String) : Prop :=
  '\x00' ∉ name.toList ∧ isFileName name = true ∧ (f.get? name).any FolderEntry.isFolder = false

instance (f : Folder) (name : String) : Decidable (f.CanHold name) :=
  inferInstanceAs (Decidable (_ ∧ _ ∧ _))

/-- A name without a slash leads into the folder itself. -/
theorem steps_of_name (h : '/' ∉ name.toList) : steps name = [name] := by
  rw [steps, List.splitOn_eq_singleton h, List.map_singleton, String.ofList_toList]

theorem write?_eq_some (h : '/' ∉ name.toList) :
    f.write? name contents = some g ↔ f.CanHold name ∧ g = f.put name (.file contents) := by
  have hwrite : f.write? name contents =
      if name.contains '\x00' || !isFileName name then none
      else if (f.get? name).any FolderEntry.isFolder then none
      else some (f.put name (.file contents)) := by
    rw [write?, steps_of_name h]
    simp only [List.getLast?_singleton, List.dropLast_singleton, walk, subfolder?,
      Option.bind_eq_bind, Option.bind_some]
    cases f.get? name with
    | none => rfl
    | some entry => cases entry <;> rfl
  rw [hwrite, String.contains_char_eq, CanHold]
  by_cases hzero : '\x00' ∈ name.toList
  · simp [hzero]
  · by_cases hname : isFileName name = true
    · cases hfolder : (f.get? name).any FolderEntry.isFolder <;> simp [hzero, hname, eq_comm]
    · simp [hname]

/-- Putting a file where one can stand makes no folder and clears none away. -/
theorem canHold_put (h : f.CanHold name) {other : String} :
    (f.put name (.file contents)).CanHold other ↔ f.CanHold other := by
  by_cases ho : other = name
  · simp [ho, CanHold, get?_put_self, FolderEntry.isFolder, h.1, h.2.1, h.2.2]
  · simp [CanHold, get?_put_of_ne ho]

/-- Puts units one after the other. -/
def putUnits (f : Folder) (units : List SourceUnit) : Folder :=
  units.foldl (fun f u => f.put u.fileName (.file u.contents.toUTF8)) f

/-- Units are all written if a file can stand under each of their names, and then they are put. -/
theorem writeUnits_eq {units : List SourceUnit} (hn : ∀ u ∈ units, '/' ∉ u.fileName.toList) :
    f.writeUnits units = (g, true) ↔ (∀ u ∈ units, f.CanHold u.fileName) ∧ g = f.putUnits units := by
  induction units generalizing f with
  | nil => simp [writeUnits, putUnits, eq_comm]
  | cons u units ih =>
    obtain ⟨hu, hrest⟩ := List.forall_mem_cons.mp hn
    rw [writeUnits, List.forall_mem_cons]
    cases hw : f.write? u.fileName u.contents.toUTF8 with
    | none =>
      have hno : ¬ f.CanHold u.fileName := fun hc => by
        rw [(write?_eq_some hu).mpr ⟨hc, rfl⟩] at hw
        cases hw
      simp [hno]
    | some next =>
      obtain ⟨hc, rfl⟩ := (write?_eq_some hu).mp hw
      simp only [ih hrest, canHold_put hc, hc, true_and]
      rfl

theorem canHold_putUnits {units : List SourceUnit} (h : ∀ u ∈ units, f.CanHold u.fileName)
    {other : String} : (f.putUnits units).CanHold other ↔ f.CanHold other := by
  induction units generalizing f with
  | nil => rfl
  | cons u units ih =>
    obtain ⟨hu, hrest⟩ := List.forall_mem_cons.mp h
    exact (ih fun v hv => (canHold_put hu).mpr (hrest v hv)).trans (canHold_put hu)

/-- The last unit stands under each of the names, and under any other what stood there before. -/
theorem get?_putUnits (f : Folder) (units : List SourceUnit) (name : String) :
    (f.putUnits units).get? name =
      ((SourceUnit.last? units name).map fun u => .file u.contents.toUTF8).or (f.get? name) := by
  induction units generalizing f with
  | nil => rfl
  | cons u units ih =>
    rw [SourceUnit.last?_cons]
    refine (ih _).trans ?_
    cases SourceUnit.last? units name with
    | some later => rfl
    | none =>
      by_cases he : u.fileName = name
      · rw [if_pos he, ← he, get?_put_self]
        rfl
      · rw [if_neg he, get?_put_of_ne (Ne.symm he)]
        rfl

theorem Ordered.putUnits (h : f.Ordered) (units : List SourceUnit) : (f.putUnits units).Ordered := by
  induction units generalizing f with
  | nil => exact h
  | cons u units ih => exact ih (h.put _ _)

/-- A file whose first line is the header, with or without blanks behind it, and whose name ends in
a suffix. -/
def LeftOver (f : Folder) (fileSuffix name : String) : Prop :=
  fileSuffix.toList <:+ name.toList ∧ ∃ contents, f.get? name = some (.file contents) ∧
    ∃ blanks : List Char, (∀ c ∈ blanks, Text.isBlank c = true) ∧
      OpensWith (sourceHeader ++ String.ofList blanks) contents

theorem leftOver_iff {fileSuffix : String} :
    f.LeftOver fileSuffix name ↔
      ∃ entry, f.get? name = some entry ∧ isStale fileSuffix (name, entry) = true := by
  have hfile (contents : ByteArray) : isStale fileSuffix (name, .file contents) = true ↔
      fileSuffix.toList <:+ name.toList ∧ ∃ blanks : List Char,
        (∀ c ∈ blanks, Text.isBlank c = true) ∧
          OpensWith (sourceHeader ++ String.ofList blanks) contents := by
    rw [isStale, Bool.and_eq_true, isGenerated_iff, String.endsWith_eq_endsWith_toSlice,
      String.Slice.endsWith_string_iff, String.copy_toSlice]
  constructor
  · rintro ⟨hs, contents, hget, hheader⟩
    exact ⟨_, hget, (hfile contents).mpr ⟨hs, hheader⟩⟩
  · rintro ⟨entry, hget, hstale⟩
    cases entry with
    | folder inner => cases hstale
    | file contents =>
      obtain ⟨hs, hheader⟩ := (hfile contents).mp hstale
      exact ⟨hs, contents, hget, hheader⟩

/-- The entries that are no left-over files. -/
def cleared (f : Folder) (fileSuffix : String) : Folder := f.filter fun e => !isStale fileSuffix e

theorem Ordered.cleared (h : f.Ordered) (fileSuffix : String) : (f.cleared fileSuffix).Ordered :=
  h.filter _

theorem Ordered.get?_cleared_of_leftOver (h : f.Ordered) {fileSuffix : String}
    (hl : f.LeftOver fileSuffix name) : (f.cleared fileSuffix).get? name = none := by
  obtain ⟨entry, hget, hstale⟩ := leftOver_iff.mp hl
  rw [Folder.cleared, h.get?_filter, hget, Option.filter_some, hstale]
  rfl

theorem Ordered.get?_cleared (h : f.Ordered) {fileSuffix : String}
    (hl : ¬ f.LeftOver fileSuffix name) : (f.cleared fileSuffix).get? name = f.get? name := by
  rw [Folder.cleared, h.get?_filter]
  cases hget : f.get? name with
  | none => rfl
  | some entry =>
    have hkeep : isStale fileSuffix (name, entry) = false :=
      Bool.eq_false_iff.mpr fun hstale => hl (leftOver_iff.mpr ⟨entry, hget, hstale⟩)
    rw [Option.filter_some, hkeep]
    rfl

/-- No folder is cleared away. -/
theorem Ordered.canHold_cleared (h : f.Ordered) (fileSuffix : String) :
    (f.cleared fileSuffix).CanHold name ↔ f.CanHold name := by
  by_cases hl : f.LeftOver fileSuffix name
  · have hnone := h.get?_cleared_of_leftOver hl
    obtain ⟨-, contents, hget, -⟩ := hl
    simp [CanHold, hnone, hget, FolderEntry.isFolder]
  · rw [CanHold, CanHold, h.get?_cleared hl]

end Folder

namespace GeneratedSource

variable {source : GeneratedSource} {f g : Folder}

/-- What writing generated source into a folder makes of it: each name of a unit has the last unit
of that name, files left over from other source are gone, and everything else is as it was. -/
structure Replaces (source : GeneratedSource) (f g : Folder) : Prop where
  written : ∀ name u, SourceUnit.last? source.units name = some u →
    g.get? name = some (.file u.contents.toUTF8)
  cleared : ∀ name, (∀ u ∈ source.units, u.fileName ≠ name) →
    f.LeftOver source.fileSuffix name → g.get? name = none
  kept : ∀ name, (∀ u ∈ source.units, u.fileName ≠ name) →
    ¬ f.LeftOver source.fileSuffix name → g.get? name = f.get? name

section

variable (hn : ∀ u ∈ source.units, '/' ∉ u.fileName.toList) (hf : f.Ordered)
include hn hf

theorem writeTo_eq : source.writeTo f = (g, true) ↔
    (∀ u ∈ source.units, f.CanHold u.fileName) ∧
      g = (f.cleared source.fileSuffix).putUnits source.units := by
  refine (Folder.writeUnits_eq hn).trans ?_
  simp only [← Folder.cleared.eq_1, hf.canHold_cleared]

theorem replaces (h : source.writeTo f = (g, true)) : source.Replaces f g := by
  obtain ⟨-, rfl⟩ := (writeTo_eq hn hf).mp h
  refine ⟨fun name u hu => ?_, fun name hno hl => ?_, fun name hno hl => ?_⟩
  · rw [Folder.get?_putUnits, hu]
    rfl
  · rw [Folder.get?_putUnits, SourceUnit.last?_eq_none.mpr hno, hf.get?_cleared_of_leftOver hl]
    rfl
  · rw [Folder.get?_putUnits, SourceUnit.last?_eq_none.mpr hno, hf.get?_cleared hl]
    rfl

/-- Every unit that was written is left over for what is generated next. -/
theorem leftOver_of_written (hs : ∀ u ∈ source.units, source.fileSuffix.toList <:+ u.fileName.toList)
    (h : source.writeTo f = (g, true)) {u : SourceUnit} (hu : u ∈ source.units) :
    g.LeftOver source.fileSuffix u.fileName := by
  obtain ⟨last, hlast⟩ : ∃ last, SourceUnit.last? source.units u.fileName = some last := by
    refine Option.isSome_iff_exists.mp (Option.isSome_iff_ne_none.mpr fun hnone => ?_)
    exact SourceUnit.last?_eq_none.mp hnone u hu rfl
  exact ⟨hs u hu, _, (replaces hn hf h).written _ _ hlast,
    Folder.isGenerated_iff.mp last.isGenerated_contents⟩

theorem ordered_writeTo (h : source.writeTo f = (g, true)) : g.Ordered := by
  obtain ⟨-, rfl⟩ := (writeTo_eq hn hf).mp h
  exact (hf.cleared _).putUnits _

/-- A file can stand under the same names as before. -/
theorem canHold_writeTo (h : source.writeTo f = (g, true)) {name : String} :
    g.CanHold name ↔ f.CanHold name := by
  obtain ⟨hcan, rfl⟩ := (writeTo_eq hn hf).mp h
  rw [Folder.canHold_putUnits fun u hu => (hf.canHold_cleared _).mpr (hcan u hu),
    hf.canHold_cleared]

/-- Writing the same source once more changes nothing. -/
theorem writeTo_again (h : source.writeTo f = (g, true)) : source.writeTo g = (g, true) := by
  have hg := ordered_writeTo hn hf h
  have hr := replaces hn hf h
  refine (writeTo_eq hn hg).mpr ⟨fun u hu => ?_, ?_⟩
  · exact (canHold_writeTo hn hf h).mpr (((writeTo_eq hn hf).mp h).1 u hu)
  · refine hg.ext ((hg.cleared _).putUnits _) fun name => ?_
    rw [Folder.get?_putUnits]
    cases hlast : SourceUnit.last? source.units name with
    | some u => exact hr.written name u hlast
    | none =>
      have hno := SourceUnit.last?_eq_none.mp hlast
      -- A file that is left over now was so before, and was cleared away.
      have hl : ¬ g.LeftOver source.fileSuffix name := fun hl => by
        by_cases hbefore : f.LeftOver source.fileSuffix name
        · obtain ⟨-, contents, hget, -⟩ := hl
          rw [hr.cleared name hno hbefore] at hget
          cases hget
        · refine hbefore ?_
          obtain ⟨hsuffix, contents, hget, hheader⟩ := hl
          exact ⟨hsuffix, contents, hr.kept name hno hbefore ▸ hget, hheader⟩
      rw [hg.get?_cleared hl]
      rfl

end

end GeneratedSource

namespace Schema

variable {s : Schema} {config : Config} {source : GeneratedSource}

theorem fileSuffix_of_generate (h : s.generate config = .ok source) :
    source.fileSuffix = config.fileSuffix ∧
      ∀ u ∈ source.units, config.fileSuffix.toList <:+ u.fileName.toList := by
  obtain ⟨-, path, bindings, function, -, rfl⟩ := source_of_generate h
  refine ⟨rfl, fun u hu => ?_⟩
  have hsuffix (stem : String) :
      config.fileSuffix.toList <:+ (stem ++ config.fileSuffix).toList := by
    rw [String.toList_append]
    exact List.suffix_append _ _
  rcases List.mem_append.mp hu with hu | hu
  · obtain ⟨b, -, rfl⟩ := List.mem_map.mp hu
    exact hsuffix _
  · rw [List.mem_singleton.mp hu]
    exact hsuffix _

/-- Writing generated source into a folder succeeds if a file can stand under each name of a unit.
It puts the units there, clears away what was generated before and leaves all else alone. So writing
it again changes nothing, and source for another schema with the same suffix clears away every unit
that it does not have itself. -/
theorem regeneration_replaces (hgen : s.generate config = .ok source)
    (hn : ∀ u ∈ source.units, '/' ∉ u.fileName.toList) {f : Folder} (hf : f.Ordered) :
    ((source.writeTo f).2 = true ↔ ∀ u ∈ source.units, f.CanHold u.fileName) ∧
    ∀ g, source.writeTo f = (g, true) →
      source.Replaces f g ∧ source.writeTo g = (g, true) ∧
      ∀ (s' : Schema) (config' : Config) (source' : GeneratedSource) (g' : Folder),
        s'.generate config' = .ok source' → config'.fileSuffix = config.fileSuffix →
        (∀ u ∈ source'.units, '/' ∉ u.fileName.toList) → source'.writeTo g = (g', true) →
        ∀ u ∈ source.units, (∀ u' ∈ source'.units, u'.fileName ≠ u.fileName) →
          g'.get? u.fileName = none := by
  obtain ⟨hsuffix, hs⟩ := fileSuffix_of_generate hgen
  rw [← hsuffix] at hs
  refine ⟨⟨fun h => ?_, fun h => ?_⟩, fun g hg => ⟨?_, ?_, ?_⟩⟩
  · exact ((GeneratedSource.writeTo_eq hn hf).mp (Prod.ext rfl h)).1
  · rw [(GeneratedSource.writeTo_eq hn hf).mpr ⟨h, rfl⟩]
  · exact GeneratedSource.replaces hn hf hg
  · exact GeneratedSource.writeTo_again hn hf hg
  · intro s' config' source' g' hgen' hconfig hn' hg' u hu hno
    have hl := GeneratedSource.leftOver_of_written hn hf hs hg hu
    have hg'' := GeneratedSource.replaces hn' (GeneratedSource.ordered_writeTo hn hf hg) hg'
    refine hg''.cleared u.fileName hno ?_
    rwa [(fileSuffix_of_generate hgen').1, hconfig, ← hsuffix]

def tagSchema : Schema := ⟨#[tag], ⟨2, 2000⟩⟩

/-- A file written by hand, notes that quote the header, and a file that was generated before. -/
def sketches : Folder := [
  ("hand.obx.rs", .file "mod hand;".toUTF8),
  ("notes.txt", .file (sourceHeader ++ "\n").toUTF8),
  ("old.obx.rs", .file (sourceHeader ++ " \r\n\nmod old;").toUTF8)]

theorem regeneration_replaces_sketches :
    ∃ source source' g g', noteSchema.generate {} = .ok source ∧
      tagSchema.generate {} = .ok source' ∧ source.writeTo sketches = (g, true) ∧
      source.Replaces sketches g ∧ source.writeTo g = (g, true) ∧
      source'.writeTo g = (g', true) ∧ g'.get? "note.obx.rs" = none := by
  have hnames : (noteSchema.generate {}).toOption.map (fun source =>
      source.units.map (·.fileName)) =
        some ["note.obx.rs", "tag.obx.rs", "boxdb_model.obx.rs"] := by
    decide +kernel
  have hnames' : (tagSchema.generate {}).toOption.map (fun source =>
      source.units.map (·.fileName)) = some ["tag.obx.rs", "boxdb_model.obx.rs"] := by
    decide +kernel
  obtain ⟨source, hgen, hnames⟩ := Option.map_eq_some_iff.mp hnames
  obtain ⟨source', hgen', hnames'⟩ := Option.map_eq_some_iff.mp hnames'
  replace hgen := of_toOption hgen
  replace hgen' := of_toOption hgen'
  have hn : ∀ name ∈ source.units.map (·.fileName), '/' ∉ name.toList ∧ sketches.CanHold name := by
    rw [hnames]
    decide +kernel
  have hn' : ∀ name ∈ source'.units.map (·.fileName),
      '/' ∉ name.toList ∧ sketches.CanHold name := by
    rw [hnames']
    decide +kernel
  rw [List.forall_mem_map] at hn hn'
  have hslash : ∀ u ∈ source.units, '/' ∉ u.fileName.toList := fun u hu => (hn u hu).1
  have hslash' : ∀ u ∈ source'.units, '/' ∉ u.fileName.toList := fun u hu => (hn' u hu).1
  have hf : sketches.Ordered := by decide +kernel
  obtain ⟨hwrites, h⟩ := regeneration_replaces hgen hslash hf
  have hg : source.writeTo sketches = ((source.writeTo sketches).1, true) :=
    Prod.ext rfl (hwrites.mpr fun u hu => (hn u hu).2)
  obtain ⟨hreplaces, hagain, hnext⟩ := h _ hg
  have hg' := (GeneratedSource.writeTo_eq hslash'
    (GeneratedSource.ordered_writeTo hslash hf hg)).mpr
      ⟨fun u hu => (GeneratedSource.canHold_writeTo hslash hf hg).mpr (hn' u hu).2, rfl⟩
  obtain ⟨u, hu, hname⟩ : ∃ u ∈ source.units, u.fileName = "note.obx.rs" :=
    List.mem_map.mp (by rw [hnames]; decide)
  have hgone : ∀ name ∈ source'.units.map (·.fileName), name ≠ u.fileName := by
    rw [hnames', hname]
    decide
  rw [List.forall_mem_map] at hgone
  refine ⟨source, source', _, _, hgen, hgen', hg, hreplaces, hagain, hg', ?_⟩
  rw [← hname]
  exact hnext tagSchema {} source' _ hgen' rfl hslash' hg' u hu hgone

end Schema

end RecordStore

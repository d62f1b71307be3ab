import RecordStore.Proofs.Source.Places
import RecordStore.Proofs.Source.Regeneration

/-! Names of generated files: when no two units share one, and that each unit is found again by its
name, in the generated source and in the folder that it was written into. -/
namespace RecordStore

theorem find?_eq_some_of_unique {α : Type} {p : α → Bool} {xs : List α} {a : α} (ha : a ∈ xs)
    (hp : p a = true) (hu : ∀ x ∈ xs, p x = true → x = a) : xs.find? p = some a := by
  cases hf : xs.find? p with
  | none => exact absurd hp (by simpa using List.find?_eq_none.mp hf a ha)
  | some x => rw [hu x (List.mem_of_find?_eq_some hf) (List.find?_some hf)]

namespace Folder

variable {f g : Folder} {units : List SourceUnit}

/-- After units were written the same folders are there, each unit has a place, and a file at the
place of a unit has the contents of the last unit with that place. -/
theorem of_writeUnits (h : f.writeUnits units = (g, true)) :
    g.SameFolders f ∧ (∀ u ∈ units, (f.place? u.fileName).isSome = true) ∧
      ∀ folder name, g.fileAt? folder name =
        ((units.reverse.find? fun u => f.place? u.fileName == some (folder, name)).map
          fun u => u.contents.toUTF8).or (f.fileAt? folder name) := by
  induction units generalizing f with
  | nil =>
    cases h
    exact ⟨fun _ => rfl, by simp, fun _ _ => rfl⟩
  | cons u units ih =>
    rw [writeUnits] at h
    cases hw : f.write? u.fileName u.contents.toUTF8 with
    | none =>
      rw [hw] at h
      cases h
    | some next =>
      rw [hw] at h
      obtain ⟨folder', name', inner, hplace, hinner, hname, rfl⟩ := of_write? hw
      have hsame : (f.update (put name' (.file u.contents.toUTF8)) folder').SameFolders f :=
        sameFolders_update hinner hname
      obtain ⟨hfolders, hplaces, hfiles⟩ := ih h
      simp only [hsame.place?_eq] at hplaces hfiles
      refine ⟨fun q => (hfolders q).trans (hsame q), ?_, fun folder name => ?_⟩
      · exact List.forall_mem_cons.mpr ⟨by simp [hplace], hplaces⟩
      rw [hfiles, List.reverse_cons, List.find?_append, List.find?_singleton,
        fileAt?_update hinner hname, hplace]
      cases units.reverse.find? fun u => f.place? u.fileName == some (folder, name) with
      | some later => rfl
      | none =>
        by_cases he : folder = folder' ∧ name = name'
        · obtain ⟨rfl, rfl⟩ := he
          simp
        · have hne : ¬ (folder', name') = (folder, name) := fun h => by
            obtain ⟨rfl, rfl⟩ := Prod.mk.inj h
            exact he ⟨rfl, rfl⟩
          simp [he, hne]

/-- No two units with different names are written to the same file. -/
def KeepsApart (f : Folder) (units : List SourceUnit) : Prop :=
  ∀ u ∈ units, ∀ v ∈ units, f.place? u.fileName = f.place? v.fileName → u.fileName = v.fileName

theorem place?_of_name {name : String} (h : '/' ∉ name.toList) :
    f.place? name = some ([], name) := by
  rw [place?, steps_of_name h]
  rfl

/-- Names without a slash are names of files of their own. -/
theorem keepsApart_of_names (f : Folder) (h : ∀ u ∈ units, '/' ∉ u.fileName.toList) :
    f.KeepsApart units := by
  intro u hu v hv he
  rw [place?_of_name (h u hu), place?_of_name (h v hv)] at he
  exact congrArg Prod.snd (Option.some.inj he)

/-- Units with names of their own are read back, each from its own file. -/
theorem read?_of_writeUnits (h : f.writeUnits units = (g, true))
    (hn : (units.map (·.fileName)).Nodup) (ha : g.KeepsApart units) {u : SourceUnit}
    (hu : u ∈ units) : g.read? u.fileName = some u.contents.toUTF8 := by
  obtain ⟨hfolders, hplaces, hfiles⟩ := of_writeUnits h
  obtain ⟨place, hplace⟩ := Option.isSome_iff_exists.mp (hplaces u hu)
  have hlast : (units.reverse.find? fun v => f.place? v.fileName == some place) = some u := by
    refine find?_eq_some_of_unique (List.mem_reverse.mpr hu) (by simp [hplace]) fun v hv he => ?_
    have hv' := List.mem_reverse.mp hv
    refine List.inj_on_of_nodup_map hn hv' hu (ha v hv' u hu ?_)
    rw [hfolders.place?_eq, hfolders.place?_eq, hplace]
    exact beq_iff_eq.mp he
  rw [read?, hfolders.place?_eq, hplace, Option.bind_some, hfiles, hlast]
  rfl

end Folder

namespace Schema

variable {s : Schema} {config : Config} {source : GeneratedSource}

/-- The names of the units without the suffix. -/
def stems (s : Schema) (config : Config) : List String :=
  s.entities.toList.map (fun e => Text.Words.snake e.name) ++ [config.modelFunction]

theorem fileNames_of_generate (h : s.generate config = .ok source) :
    source.units.map (·.fileName) = (s.stems config).map (· ++ config.fileSuffix) := by
  obtain ⟨-, path, bindings, function, hb, rfl⟩ := source_of_generate h
  have hentities : bindings.map (fun b => Text.Words.snake b.entity.name) =
      s.entities.toList.map fun e => Text.Words.snake e.name :=
    map_of_mapM hb fun e b ho => by rw [(Binding.of_ofEntity ho).1]
  rw [stems, List.map_append, List.map_append, List.map_map, ← hentities, List.map_map]
  rfl

theorem nodup_fileNames_iff (h : s.generate config = .ok source) :
    (source.units.map (·.fileName)).Nodup ↔ (s.stems config).Nodup := by
  rw [fileNames_of_generate h]
  refine List.nodup_map_iff fun a b hab => ?_
  have hlist := congrArg String.toList hab
  simp only [String.toList_append] at hlist
  exact String.toList_injective (List.append_cancel_right hlist)

/-- The names of the units are pairwise distinct exactly if the snake forms of the entities' names
are, and none of them is the name of the model's function. Then every unit is found by its name, and
is read back from its own file wherever the names lead to different files. -/
theorem units_keep_apart (h : s.generate config = .ok source) :
    ((source.units.map (·.fileName)).Nodup ↔ (s.stems config).Nodup) ∧
    ((s.stems config).Nodup →
      (∀ u ∈ source.units, source.unit? u.fileName = some u) ∧
      ∀ f g, source.writeTo f = (g, true) → g.KeepsApart source.units →
        ∀ u ∈ source.units, g.read? u.fileName = some u.contents.toUTF8) ∧
    ((∀ u ∈ source.units, '/' ∉ u.fileName.toList) → ∀ g : Folder, g.KeepsApart source.units) := by
  have hnames := nodup_fileNames_iff h
  refine ⟨hnames, fun hn => ⟨fun u hu => ?_, fun f g hw ha u hu => ?_⟩,
    fun hslash g => g.keepsApart_of_names hslash⟩
  · rw [GeneratedSource.unit?]
    refine find?_eq_some_of_unique hu (by simp) fun v hv he => ?_
    exact List.inj_on_of_nodup_map (hnames.mpr hn) hv hu (beq_iff_eq.mp he)
  · exact Folder.read?_of_writeUnits hw (hnames.mpr hn) ha hu

theorem units_keep_apart_note : ∃ source g, noteSchema.generate {} = .ok source ∧
    (source.units.map (·.fileName)).Nodup ∧
    (∀ u ∈ source.units, source.unit? u.fileName = some u) ∧
    source.writeTo sketches = (g, true) ∧
    ∀ u ∈ source.units, g.read? u.fileName = some u.contents.toUTF8 := by
  obtain ⟨source, hgen⟩ := exists_generate_noteSchema
  obtain ⟨hiff, happly, hapart⟩ := units_keep_apart hgen
  have hstems : (noteSchema.stems {}).Nodup := by decide +kernel
  have hnames : ∀ name ∈ source.units.map (·.fileName),
      '/' ∉ name.toList ∧ sketches.CanHold name := by
    rw [fileNames_of_generate hgen]
    decide +kernel
  rw [List.forall_mem_map] at hnames
  have hslash : ∀ u ∈ source.units, '/' ∉ u.fileName.toList := fun u hu => (hnames u hu).1
  have hg := (GeneratedSource.writeTo_eq (f := sketches) hslash (by decide +kernel)).mpr
    ⟨fun u hu => (hnames u hu).2, rfl⟩
  obtain ⟨hfound, hread⟩ := happly hstems
  exact ⟨source, _, hgen, hiff.mpr hstems, hfound, hg, hread _ _ hg (hapart hslash _)⟩

/-- Two entities whose names differ in case style only. -/
def todoSchema : Schema := ⟨#[
  Samples.entity 1 1000 "TodoItem" ⟨1, 1001⟩ [Samples.property 1 1001 "id" .u64],
  Samples.entity 2 2000 "Todo_Item" ⟨1, 2001⟩ [Samples.property 1 2001 "id" .u64]], ⟨2, 2000⟩⟩

/-- Source is generated for them, and two of its three units share a file. -/
theorem units_collide_todo : ∃ source, todoSchema.generate {} = .ok source ∧
    source.units.map (·.fileName) =
      ["todo_item.obx.rs", "todo_item.obx.rs", "boxdb_model.obx.rs"] ∧
    ¬ (source.units.map (·.fileName)).Nodup ∧
    ∃ g, source.writeTo [] = (g, true) ∧
      g.map (·.1) = ["boxdb_model.obx.rs", "todo_item.obx.rs"] := by
  obtain ⟨source, hgen⟩ : ∃ source, todoSchema.generate {} = .ok source :=
    exists_ok (by decide +kernel)
  have hnames : source.units.map (·.fileName) =
      ["todo_item.obx.rs", "todo_item.obx.rs", "boxdb_model.obx.rs"] := by
    rw [fileNames_of_generate hgen]
    decide +kernel
  have hcan : ∀ name ∈ source.units.map (·.fileName),
      '/' ∉ name.toList ∧ Folder.CanHold [] name := by
    rw [hnames]
    decide +kernel
  rw [List.forall_mem_map] at hcan
  refine ⟨source, hgen, hnames, by rw [hnames]; decide, _,
    (GeneratedSource.writeTo_eq (fun u hu => (hcan u hu).1) .nil).mpr
      ⟨fun u hu => (hcan u hu).2, rfl⟩, ?_⟩
  obtain ⟨first, rest, hunits, hfirst, hrest⟩ := List.map_eq_cons_iff.mp hnames
  obtain ⟨second, rest, rfl, hsecond, hrest⟩ := List.map_eq_cons_iff.mp hrest
  obtain ⟨model, rest, rfl, hmodel, hrest⟩ := List.map_eq_cons_iff.mp hrest
  cases List.map_eq_nil_iff.mp hrest
  have hne : "boxdb_model.obx.rs" ≠ "todo_item.obx.rs" := by decide
  have hlt : "boxdb_model.obx.rs" < "todo_item.obx.rs" := by decide +kernel
  rw [hunits, Folder.putUnits]
  simp only [Folder.cleared, List.filter_nil, List.foldl_cons, List.foldl_nil, Folder.put, hfirst,
    hsecond, hmodel, if_pos, if_neg hne, if_pos hlt, List.map_cons, List.map_nil]

end Schema

end RecordStore

import RecordStore.Proofs.Source.Entries

/-! Files in folders within folders: writing one changes the file at its place, no other file, and
no folder. -/
namespace RecordStore.Folder

variable {f g inner : Folder} {folder : List String} {name path : String} {contents : ByteArray}

/-- The contents of the file with a name in the folder at the end of others. -/
def fileAt? (f : Folder) (folder : List String) (name : String) : Option ByteArray :=
  match (f.subfolder? folder).bind (·.get? name) with
  | some (.file contents) => some contents
  | _ => none

/-- The folder and the name that a path leads to. -/
def place? (f : Folder) (path : String) : Option (List String × String) := do
  let name ← (steps path).getLast?
  let folder ← f.walk [] (steps path).dropLast
  return (folder, name)

/-- The contents of the file that a path leads to. -/
def read? (f : Folder) (path : String) : Option ByteArray :=
  (f.place? path).bind fun place => f.fileAt? place.1 place.2

/-- The same folders exist. -/
def SameFolders (f g : Folder) : Prop :=
  ∀ folder, (f.subfolder? folder).isSome = (g.subfolder? folder).isSome

theorem subfolder?_cons {step : String} (h : f.get? step = some (.folder inner))
    (rest : List String) : f.subfolder? (step :: rest) = inner.subfolder? rest := by
  rw [subfolder?, h]

theorem exists_of_subfolder?_cons {step : String} {rest : List String}
    (h : f.subfolder? (step :: rest) = some g) :
    ∃ inner : Folder, f.get? step = some (.folder inner) ∧ inner.subfolder? rest = some g := by
  rw [subfolder?] at h
  split at h
  · next inner hstep => exact ⟨inner, hstep, h⟩
  · cases h

/-- Folders within are reached through the first of their names. -/
theorem subfolder?_congr {step : String} (h : f.get? step = g.get? step) (rest : List String) :
    f.subfolder? (step :: rest) = g.subfolder? (step :: rest) := by
  rw [subfolder?, subfolder?, h]

theorem subfolder?_put_file (h : ∀ e, f.get? name ≠ some (.folder e)) (step : String)
    (rest : List String) :
    (f.put name (.file contents)).subfolder? (step :: rest) = f.subfolder? (step :: rest) := by
  by_cases hs : step = name
  · rw [subfolder?, subfolder?, hs, get?_put_self]
    cases he : f.get? name with
    | none => rfl
    | some entry =>
      cases entry with
      | file old => rfl
      | folder e => exact absurd he (h e)
  · exact subfolder?_congr (get?_put_of_ne hs f) rest

theorem update_cons {step : String} (h : f.get? step = some (.folder inner))
    (change : Folder → Folder) (rest : List String) :
    f.update change (step :: rest) = f.put step (.folder (inner.update change rest)) := by
  rw [update, h]

theorem SameFolders.walk_eq (h : f.SameFolders g) (place path : List String) :
    f.walk place path = g.walk place path := by
  induction path generalizing place with
  | nil => rfl
  | cons step rest ih => rw [walk, walk, ih, ih, ih, h]

theorem SameFolders.place?_eq (h : f.SameFolders g) (path : String) :
    f.place? path = g.place? path := by
  rw [place?, place?, h.walk_eq]

/-- A file that is written is put where its path leads, where no folder has its name. -/
theorem of_write? (h : f.write? path contents = some g) :
    ∃ folder name inner, f.place? path = some (folder, name) ∧ f.subfolder? folder = some inner ∧
      (∀ e, inner.get? name ≠ some (.folder e)) ∧
      g = f.update (put name (.file contents)) folder := by
  obtain ⟨name, hname, h⟩ := Option.bind_eq_some_iff.mp h
  split at h
  · cases h
  · obtain ⟨folder, hfolder, h⟩ := Option.bind_eq_some_iff.mp h
    obtain ⟨inner, hinner, h⟩ := Option.bind_eq_some_iff.mp h
    refine ⟨folder, name, inner, ?_, hinner, ?_⟩
    · rw [place?, hname, hfolder]
      rfl
    · cases he : inner.get? name with
      | none =>
        rw [he] at h
        cases h
        simp
      | some entry =>
        rw [he] at h
        cases entry with
        | folder e => cases h
        | file old =>
          cases h
          simp

section

variable (hinner : f.subfolder? folder = some inner)
  (hname : ∀ e, inner.get? name ≠ some (.folder e))
include hinner hname

theorem sameFolders_update : (f.update (put name (.file contents)) folder).SameFolders f := by
  induction folder generalizing f with
  | nil =>
    cases hinner
    intro q
    cases q with
    | nil => rfl
    | cons n rest => exact congrArg Option.isSome (subfolder?_put_file hname n rest)
  | cons step folder ih =>
    obtain ⟨next, hstep, hnext⟩ := exists_of_subfolder?_cons hinner
    rw [update_cons hstep]
    intro q
    cases q with
    | nil => rfl
    | cons n rest =>
      by_cases hn : n = step
      · rw [hn, subfolder?_cons (get?_put_self f), subfolder?_cons hstep]
        exact ih hnext rest
      · rw [subfolder?_congr (get?_put_of_ne hn f)]

/-- The file is there afterwards, and every other file is as it was. -/
theorem fileAt?_update (folder' : List String) (name' : String) :
    (f.update (put name (.file contents)) folder).fileAt? folder' name' =
      if folder' = folder ∧ name' = name then some contents else f.fileAt? folder' name' := by
  induction folder generalizing f folder' with
  | nil =>
    cases hinner
    cases folder' with
    | nil =>
      by_cases hn : name' = name
      · rw [if_pos ⟨rfl, hn⟩, hn, fileAt?]
        simp only [subfolder?, update, Option.bind_some, get?_put_self]
      · rw [if_neg fun h => hn h.2, fileAt?, fileAt?]
        simp only [subfolder?, update, Option.bind_some, get?_put_of_ne hn]
    | cons n rest =>
      rw [if_neg fun h => by simp at h, fileAt?, fileAt?, update, subfolder?_put_file hname]
  | cons step folder ih =>
    obtain ⟨next, hstep, hnext⟩ := exists_of_subfolder?_cons hinner
    rw [update_cons hstep]
    cases folder' with
    | nil =>
      rw [if_neg fun h => by simp at h, fileAt?, fileAt?]
      by_cases hn : name' = step
      · simp only [subfolder?, Option.bind_some, hn, get?_put_self, hstep]
      · simp only [subfolder?, Option.bind_some, get?_put_of_ne hn]
    | cons n rest =>
      by_cases hn : n = step
      · have hrest := ih hnext rest
        rw [fileAt?, fileAt?] at hrest
        rw [fileAt?, fileAt?, hn, subfolder?_cons (get?_put_self f), subfolder?_cons hstep, hrest]
        simp only [List.cons.injEq, true_and]
      · rw [fileAt?, fileAt?, subfolder?_congr (get?_put_of_ne hn f),
          if_neg fun h => hn (List.cons.inj h.1).1]

end

end RecordStore.Folder

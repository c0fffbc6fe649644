import CallSieve.Disk.Tree
import CallSieve.Proofs.FilePath

/-!
Whether there is a file at a path in a directory is a matter of the place of the
directory (`isFile_child_iff`). Files that are added leave every directory in its
place, and only change what the directories hold that they are put into
(`holds_withFiles_iff`).
-/

namespace CallSieve.FileTree

open FilePath (LiesIn isIdle)

variable {t : FileTree} {p dir : FilePath} {place : List String} {name : String}
  {added : List (List String × String)}

/-- The place of the directory at a path. At the empty path is the one where relative
    paths begin. -/
def directory? (t : FileTree) (p : FilePath) : Option (List String) :=
  (p.pieces.foldlM t.follow? (t.start p)).filter t.isDirectory

/-- The directory at a path directly holds a file of this name. -/
def Holds (t : FileTree) (dir : FilePath) (name : String) : Prop :=
  ∃ place, t.directory? dir = some place ∧ (t.content? (place ++ [name])).isSome = true

instance (t : FileTree) (dir : FilePath) (name : String) : Decidable (t.Holds dir name) :=
  decidable_of_iff ((t.directory? dir).any (fun place => (t.content? (place ++ [name])).isSome) = true)
    (Option.any_eq_true _ _)

/-- A name that leads from a directory to something in it. -/
def LeadsIn (name : String) : Prop := isIdle name = false ∧ name ≠ ".."

instance : DecidablePred LeadsIn := fun _ => inferInstanceAs (Decidable (_ ∧ _))

theorem follow?_empty (place : List String) : t.follow? place "" = (some place).filter t.isDirectory := by
  cases known : t.isDirectory place <;> simp [follow?, isIdle, Option.filter, known]

theorem bind_content?_follow? (leads : LeadsIn name) (place : List String) :
    (t.follow? place name).bind t.content? =
      ((some place).filter t.isDirectory).bind fun place => t.content? (place ++ [name]) := by
  obtain ⟨notIdle, notBack⟩ := leads
  cases known : t.isDirectory place with
  | false => simp [follow?, Option.filter, known]
  | true =>
    cases file : t.content? (place ++ [name]) with
    | none => cases t.isDirectory (place ++ [name]) <;> simp [follow?, Option.filter, known, notIdle, notBack, file]
    | some text => simp [follow?, Option.filter, known, notIdle, notBack, file]

/-- A path in a directory goes on from a path to the directory. A slash at the end of
    that one only asks whether the directory is there. -/
theorem exists_pieces_child (t : FileTree) (dir : FilePath) (name : String) :
    ∃ pieces, (dir.child name).pieces = pieces ++ [name] ∧
      t.directory? dir = (pieces.foldlM t.follow? (t.start dir)).filter t.isDirectory := by
  refine ⟨_, rfl, ?_⟩
  split
  · next slash =>
    have ends : dir.pieces.dropLast ++ [""] = dir.pieces := List.dropLast_append_getLast? "" slash
    rw [directory?, ← ends, List.foldlM_append, List.dropLast_concat]
    cases dir.pieces.dropLast.foldlM t.follow? (t.start dir) with
    | none => rfl
    | some place => cases known : t.isDirectory place <;> simp [follow?_empty, Option.filter, known]
  · rfl

theorem isFile_child_iff (leads : LeadsIn name) : t.isFile (dir.child name) = true ↔ t.Holds dir name := by
  obtain ⟨pieces, isChild, isDirectory⟩ := t.exists_pieces_child dir name
  have there : t.place? (dir.child name) = (pieces.foldlM t.follow? (t.start dir)).bind (t.follow? · name) := by
    have filled : (!(dir.child name).isAbsolute && (dir.child name).pieces.isEmpty) = false := by simp [isChild]
    rw [place?, filled, isChild, List.foldlM_append]
    simp only [Bool.false_eq_true, ↓reduceIte, List.foldlM_cons, List.foldlM_nil, bind_pure]
    rfl
  rw [isFile, there, Holds, isDirectory]
  cases pieces.foldlM t.follow? (t.start dir) with
  | none => simp
  | some place => simp [bind_content?_follow? leads, Option.isSome_bind]

theorem isDirectory_of_follow? {next : List String} {piece : String} (step : t.follow? place piece = some next) :
    t.isDirectory place = true := by
  by_contra absent
  simp [follow?, absent] at step

/-- Around a directory that is there are directories that are there. -/
theorem exists_directory?_of_liesIn (there : t.directory? p = some place) (inside : p.LiesIn dir) :
    ∃ around, t.directory? dir = some around := by
  obtain ⟨sameRoot, rest, whole⟩ := inside.isPrefix
  have sameStart : t.start dir = t.start p := by rw [start, start, sameRoot]
  rw [directory?, ← whole, List.foldlM_append, ← sameStart] at there
  obtain ⟨reached, isDirectory⟩ := Option.filter_eq_some_iff.mp there
  obtain ⟨around, led, further⟩ := Option.bind_eq_some_iff.mp reached
  refine ⟨around, Option.filter_eq_some_iff.mpr ⟨led, ?_⟩⟩
  cases rest with
  | nil =>
    obtain rfl := Option.some.inj further
    exact isDirectory
  | cons piece rest =>
    rw [List.foldlM_cons] at further
    obtain ⟨next, step, -⟩ := Option.bind_eq_some_iff.mp further
    exact isDirectory_of_follow? step

/-- The tree with more files. Where there is a file already, it stays. -/
def withFiles (t : FileTree) (added : List (List String × String)) : FileTree := { t with files := t.files ++ added }

theorem isDirectory_withFiles (isDirectory : t.isDirectory place = true) :
    (t.withFiles added).isDirectory place = true := by
  simp only [FileTree.isDirectory, withFiles, List.map_append, List.any_cons, List.any_append, Bool.or_eq_true,
    List.cons_append] at isDirectory ⊢
  tauto

theorem isSome_content?_withFiles :
    ((t.withFiles added).content? place).isSome = true ↔
      (t.content? place).isSome = true ∨ ∃ file ∈ added, place = file.1 := by
  simp only [content?, withFiles, List.lookup_isSome_iff, List.mem_append, or_and_right, exists_or, beq_iff_eq]

theorem follow?_withFiles {next : List String} {piece : String} (step : t.follow? place piece = some next) :
    (t.withFiles added).follow? place piece = some next := by
  have here := isDirectory_of_follow? step
  have hereToo : (t.withFiles added).isDirectory place = true := isDirectory_withFiles here
  simp only [follow?, here, hereToo, Bool.not_true, Bool.false_eq_true, ↓reduceIte] at step ⊢
  by_cases idle : isIdle piece = true
  · rw [if_pos idle] at step ⊢
    exact step
  · by_cases back : (piece == "..") = true
    · rw [if_neg idle, if_pos back] at step ⊢
      exact step
    · rw [if_neg idle, if_neg back, Option.ite_none_right_eq_some, Bool.or_eq_true] at step ⊢
      obtain ⟨known, isNext⟩ := step
      refine ⟨?_, isNext⟩
      rcases known with sub | file
      · exact .inl (isDirectory_withFiles sub)
      · exact .inr (isSome_content?_withFiles.mpr (.inl file))

theorem foldlM_follow?_withFiles {pieces : List String} {next : List String}
    (path : pieces.foldlM t.follow? place = some next) : pieces.foldlM (t.withFiles added).follow? place = some next := by
  induction pieces generalizing place with
  | nil => exact path
  | cons piece pieces ih =>
    rw [List.foldlM_cons] at path ⊢
    obtain ⟨between, step, path⟩ := Option.bind_eq_some_iff.mp path
    exact Option.bind_eq_some_iff.mpr ⟨between, follow?_withFiles step, ih path⟩

theorem directory?_withFiles (there : t.directory? p = some place) :
    (t.withFiles added).directory? p = some place := by
  obtain ⟨path, isDirectory⟩ := Option.filter_eq_some_iff.mp there
  exact Option.filter_eq_some_iff.mpr ⟨foldlM_follow?_withFiles path, isDirectory_withFiles isDirectory⟩

theorem holds_withFiles_iff (there : t.directory? dir = some place) :
    (t.withFiles added).Holds dir name ↔ t.Holds dir name ∨ ∃ file ∈ added, place ++ [name] = file.1 := by
  simp only [Holds, there, directory?_withFiles there, Option.some.injEq, exists_eq_left', isSome_content?_withFiles]

end CallSieve.FileTree

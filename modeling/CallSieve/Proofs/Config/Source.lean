import CallSieve.Config.Source
import CallSieve.Proofs.Disk.Directories
import CallSieve.Proofs.Disk.Reading

/-!
On a file tree the file of a project is the one in the nearest directory that holds
one, and only where no directory holds one is the file of the user asked for
(`locate_outcome`). What lies elsewhere than in the directories up to that one has no
part in it.
-/

namespace CallSieve

open FilePath (IsNearest LiesIn)

namespace FileTree

variable {t : FileTree} {start dir : FilePath}

/-- The directory holds the file of a project, under one of its two names. -/
def HoldsProject (t : FileTree) (dir : FilePath) : Prop :=
  t.Holds dir "methodmatch.toml" ∨ t.Holds dir ".methodmatch.toml"

instance (t : FileTree) (dir : FilePath) : Decidable (t.HoldsProject dir) := inferInstanceAs (Decidable (_ ∨ _))

/-- The path of the file of a project that a directory holds. The plain name goes
    before the dotted one. -/
inductive IsProjectFile (t : FileTree) (dir : FilePath) : FilePath → Prop
  | plain (holds : t.Holds dir "methodmatch.toml") : IsProjectFile t dir (dir.child "methodmatch.toml")
  | dotted (lacks : ¬ t.Holds dir "methodmatch.toml") (holds : t.Holds dir ".methodmatch.toml") :
      IsProjectFile t dir (dir.child ".methodmatch.toml")

/-- The directory is one of those from the start to the nearest one that holds the file
    of a project. -/
def IsOnTheWay (t : FileTree) (start dir : FilePath) : Prop :=
  start.LiesIn dir ∧ ∃ found, IsNearest t.HoldsProject start found ∧ dir.LiesIn found

theorem exists_isProjectFile_iff : (∃ path, t.IsProjectFile dir path) ↔ t.HoldsProject dir := by
  constructor
  · rintro ⟨_, holds | ⟨-, holds⟩⟩
    · exact .inl holds
    · exact .inr holds
  · intro holds
    by_cases plain : t.Holds dir "methodmatch.toml"
    · exact ⟨_, .plain plain⟩
    · exact ⟨_, .dotted plain (holds.resolve_left plain)⟩

end FileTree

namespace ConfigSource

open FileTree (isFile_child_iff)

variable {t u : FileTree} {start dir path : FilePath} {globalDir : Option FilePath}

theorem leadsIn_names : ∀ name ∈ globalName :: projectNames, FileTree.LeadsIn name := by decide

/-- A source that is not given is the file of a project, or else that of the user, or none. -/
theorem locate_eq_iff {isFile : FilePath → Bool} (source : ConfigSource) :
    locate isFile start none globalDir = source ↔
      match source with
      | .explicit _ => False
      | .project path => (projectCandidates start).find? isFile = some path
      | .global path =>
        (projectCandidates start).find? isFile = none ∧ (globalDir.map globalCandidate).filter isFile = some path
      | .default =>
        (projectCandidates start).find? isFile = none ∧ (globalDir.map globalCandidate).filter isFile = none := by
  rw [locate]
  cases (projectCandidates start).find? isFile with
  | some found => cases source <;> simp
  | none => cases (globalDir.map globalCandidate).filter isFile <;> cases source <;> simp

/-- Only the candidates are asked for. -/
theorem locate_congr {isFile isFileToo : FilePath → Bool} {given : Option FilePath}
    (same : ∀ p ∈ candidates start globalDir, isFileToo p = isFile p) :
    locate isFileToo start given globalDir = locate isFile start given globalDir := by
  simp only [candidates, List.forall_mem_append] at same
  have project : (projectCandidates start).find? isFileToo = (projectCandidates start).find? isFile :=
    List.find?_congr same.1
  have global : (globalDir.map globalCandidate).filter isFileToo = (globalDir.map globalCandidate).filter isFile := by
    cases known : globalDir.map globalCandidate with
    | none => rfl
    | some path => simp only [Option.filter, same.2 path (by simp [known])]
  unfold locate
  rw [project, global]

/-- A check on a tree looks for its source among the files of the tree. -/
theorem run_source_eq_locate {env : Environment} {given : Option FilePath} {c : Check}
    (canonical : (t.canonical? c.directory).getD c.directory = start) :
    (c.source FileTree.disk env given).run t = (locate t.isFile start given env.globalDir, t) := by
  rw [FileTree.run_source canonical]
  congr 1
  exact locate_congr fun p asked => by simp [asked]

/-- The file of a project that a directory holds. -/
def projectFile? (isFile : FilePath → Bool) (dir : FilePath) : Option FilePath :=
  (projectNames.map dir.child).find? isFile

theorem projectFile?_eq_some_iff : projectFile? t.isFile dir = some path ↔ t.IsProjectFile dir path := by
  have isPlain : t.isFile (dir.child "methodmatch.toml") = true ↔ t.Holds dir "methodmatch.toml" :=
    isFile_child_iff (leadsIn_names _ (by decide))
  have isDotted : t.isFile (dir.child ".methodmatch.toml") = true ↔ t.Holds dir ".methodmatch.toml" :=
    isFile_child_iff (leadsIn_names _ (by decide))
  simp only [projectFile?, projectNames, List.map_cons, List.map_nil]
  constructor
  · intro found
    by_cases plain : t.Holds dir "methodmatch.toml"
    · rw [List.find?_cons_of_pos (isPlain.mpr plain)] at found
      cases found
      exact .plain plain
    · rw [List.find?_cons_of_neg (fun file => plain (isPlain.mp file))] at found
      obtain rfl := List.mem_singleton.mp (List.mem_of_find?_eq_some found)
      exact .dotted plain (isDotted.mp (List.find?_some found))
  · rintro (holds | ⟨lacks, holds⟩)
    · exact List.find?_cons_of_pos (isPlain.mpr holds)
    · rw [List.find?_cons_of_neg (fun file => lacks (isPlain.mp file))]
      exact List.find?_cons_of_pos (isDotted.mpr holds)

theorem isSome_projectFile?_iff : (projectFile? t.isFile dir).isSome = true ↔ t.HoldsProject dir := by
  rw [Option.isSome_iff_exists, ← FileTree.exists_isProjectFile_iff]
  simp only [projectFile?_eq_some_iff]

theorem find?_projectCandidates_eq_some_iff :
    (projectCandidates start).find? t.isFile = some path ↔
      ∃ dir, IsNearest t.HoldsProject start dir ∧ t.IsProjectFile dir path := by
  have outwards : (projectCandidates start).find? t.isFile = start.ancestors.findSome? (projectFile? t.isFile) :=
    List.find?_flatMap
  simp only [outwards, FilePath.findSome?_ancestors_eq_some_iff, isSome_projectFile?_iff, projectFile?_eq_some_iff]

theorem exists_projectCandidates_iff :
    (∃ path, (projectCandidates start).find? t.isFile = some path) ↔ ∃ dir, start.LiesIn dir ∧ t.HoldsProject dir := by
  rw [← IsNearest.exists_iff]
  simp only [find?_projectCandidates_eq_some_iff]
  rw [exists_comm]
  refine exists_congr fun dir => ?_
  rw [exists_and_left, FileTree.exists_isProjectFile_iff, and_iff_left_of_imp IsNearest.holds]

theorem filter_globalCandidate_eq_some_iff :
    (globalDir.map globalCandidate).filter t.isFile = some path ↔
      ∃ dir, globalDir = some dir ∧ t.Holds dir "config.toml" ∧ path = dir.child "config.toml" := by
  have isGlobal (dir : FilePath) : t.isFile (dir.child "config.toml") = true ↔ t.Holds dir "config.toml" :=
    isFile_child_iff (leadsIn_names _ (by decide))
  rw [Option.filter_eq_some_iff]
  constructor
  · rintro ⟨found, file⟩
    obtain ⟨dir, known, rfl⟩ := Option.map_eq_some_iff.mp found
    exact ⟨dir, known, (isGlobal dir).mp file, rfl⟩
  · rintro ⟨dir, rfl, holds, rfl⟩
    exact ⟨rfl, (isGlobal dir).mpr holds⟩

theorem filter_globalCandidate_eq_none_iff :
    (globalDir.map globalCandidate).filter t.isFile = none ↔
      ¬ ∃ dir, globalDir = some dir ∧ t.Holds dir "config.toml" := by
  rw [Option.eq_none_iff_forall_ne_some]
  constructor
  · rintro unfound ⟨dir, known, holds⟩
    exact unfound _ (filter_globalCandidate_eq_some_iff.mpr ⟨dir, known, holds, rfl⟩)
  · intro absent path found
    obtain ⟨dir, known, holds, -⟩ := filter_globalCandidate_eq_some_iff.mp found
    exact absent ⟨dir, known, holds⟩

/-- The file of a project stays the one that is found in any tree that agrees on what
    the directories on the way hold. -/
theorem find?_projectCandidates_of_agree (found : (projectCandidates start).find? t.isFile = some path)
    (agree : ∀ dir, t.IsOnTheWay start dir → ∀ name ∈ projectNames, (u.Holds dir name ↔ t.Holds dir name)) :
    (projectCandidates start).find? u.isFile = some path := by
  obtain ⟨dir, nearest, isFile⟩ := find?_projectCandidates_eq_some_iff.mp found
  have samePlain (other : FilePath) (way : t.IsOnTheWay start other) :
      u.Holds other "methodmatch.toml" ↔ t.Holds other "methodmatch.toml" := agree other way _ (by decide)
  have sameDotted (other : FilePath) (way : t.IsOnTheWay start other) :
      u.Holds other ".methodmatch.toml" ↔ t.Holds other ".methodmatch.toml" := agree other way _ (by decide)
  refine find?_projectCandidates_eq_some_iff.mpr ⟨dir, nearest.of_agree fun other inside between => ?_, ?_⟩
  · have way : t.IsOnTheWay start other := ⟨inside, dir, nearest, between⟩
    exact or_congr (samePlain other way) (sameDotted other way)
  · have way : t.IsOnTheWay start dir := ⟨nearest.around, dir, nearest, .refl dir⟩
    cases isFile with
    | plain holds => exact .plain ((samePlain dir way).mpr holds)
    | dotted lacks holds => exact .dotted (mt (samePlain dir way).mp lacks) ((sameDotted dir way).mpr holds)

/-- Where a configuration is found. A path that is given is the source as it is. Else
    it is the file of a project, if any directory around the start holds one: that of the
    nearest such directory, under the plain name if it is there. Else it is the file of
    the user, if that is there, and else none. The file of a project that is found is the
    same in all trees that agree on what the directories on the way to it hold. So it is
    the same after files are added in other directories. -/
theorem locate_outcome (t : FileTree) (start : FilePath) (globalDir : Option FilePath) :
    (∀ path, locate t.isFile start (some path) globalDir = .explicit path) ∧
    ((∃ path, locate t.isFile start none globalDir = .project path) ↔
      ∃ dir, start.LiesIn dir ∧ t.HoldsProject dir) ∧
    (∀ path, locate t.isFile start none globalDir = .project path ↔
      ∃ dir, IsNearest t.HoldsProject start dir ∧ t.IsProjectFile dir path) ∧
    (∀ path, locate t.isFile start none globalDir = .global path ↔
      (¬ ∃ dir, start.LiesIn dir ∧ t.HoldsProject dir) ∧
        ∃ dir, globalDir = some dir ∧ t.Holds dir "config.toml" ∧ path = dir.child "config.toml") ∧
    (locate t.isFile start none globalDir = .default ↔
      (¬ ∃ dir, start.LiesIn dir ∧ t.HoldsProject dir) ∧
        ¬ ∃ dir, globalDir = some dir ∧ t.Holds dir "config.toml") ∧
    (∀ (u : FileTree) path, locate t.isFile start none globalDir = .project path →
      (∀ dir, t.IsOnTheWay start dir → ∀ name ∈ projectNames, (u.Holds dir name ↔ t.Holds dir name)) →
        locate u.isFile start none globalDir = .project path) ∧
    ∀ added path, (t.directory? start).isSome = true → locate t.isFile start none globalDir = .project path →
      (∀ dir, t.IsOnTheWay start dir → ∀ file ∈ added, t.directory? dir ≠ some file.1.dropLast) →
        locate (t.withFiles added).isFile start none globalDir = .project path := by
  have unfound : (projectCandidates start).find? t.isFile = none ↔ ¬ ∃ dir, start.LiesIn dir ∧ t.HoldsProject dir := by
    rw [← exists_projectCandidates_iff, Option.eq_none_iff_forall_ne_some, not_exists]
  refine ⟨fun path => rfl, ?_, ?_, ?_, ?_, ?_, ?_⟩
  · simp only [locate_eq_iff, exists_projectCandidates_iff]
  · intro path
    simp only [locate_eq_iff, find?_projectCandidates_eq_some_iff]
  · intro path
    simp only [locate_eq_iff, unfound, filter_globalCandidate_eq_some_iff]
  · simp only [locate_eq_iff, unfound, filter_globalCandidate_eq_none_iff]
  · intro u path found agree
    simp only [locate_eq_iff] at found ⊢
    exact find?_projectCandidates_of_agree found agree
  · intro added path there found outside
    simp only [locate_eq_iff] at found ⊢
    refine find?_projectCandidates_of_agree found fun dir way name _ => ?_
    obtain ⟨place, isStart⟩ := Option.isSome_iff_exists.mp there
    obtain ⟨around, isDirectory⟩ := FileTree.exists_directory?_of_liesIn isStart way.1
    rw [FileTree.holds_withFiles_iff isDirectory, or_iff_left]
    rintro ⟨file, member, isFile⟩
    refine outside dir way file member ?_
    rw [isDirectory, ← isFile, List.dropLast_concat]

/-- A project with a file of its own for what is built, and a directory there that is
    only named like one. -/
def nestedProject : FileTree where
  files := [(["work", "methodmatch.toml"], ""), (["work", "build", ".methodmatch.toml"], "")]
  directories := [["work", "build", "snapshots", "methodmatch.toml"]]
  working := []

theorem locate_nestedProject :
    locate nestedProject.isFile ⟨true, ["work", "build", "snapshots"]⟩ none none =
      .project ⟨true, ["work", "build", ".methodmatch.toml"]⟩ ∧
    locate (nestedProject.withFiles [(["methodmatch.toml"], ""), (["work", "docs", "methodmatch.toml"], "")]).isFile
      ⟨true, ["work", "build", "snapshots"]⟩ none none = .project ⟨true, ["work", "build", ".methodmatch.toml"]⟩ := by
  obtain ⟨-, -, isProject, -, -, -, stays⟩ := locate_outcome nestedProject ⟨true, ["work", "build", "snapshots"]⟩ none
  have nearest : IsNearest nestedProject.HoldsProject ⟨true, ["work", "build", "snapshots"]⟩ ⟨true, ["work", "build"]⟩ :=
    (IsNearest.iff_parent? (by decide)).mpr ⟨_, rfl, .self (by decide)⟩
  have found := (isProject ⟨true, ["work", "build", ".methodmatch.toml"]⟩).mpr
    ⟨⟨true, ["work", "build"]⟩, nearest, .dotted (by decide) (by decide)⟩
  refine ⟨found, stays _ _ (by decide) found ?_⟩
  rintro dir ⟨inside, other, isNearest, between⟩
  obtain rfl := nearest.unique isNearest
  rcases LiesIn.iff_parent?.mp inside with rfl | ⟨parent, isParent, further⟩
  · decide
  · cases isParent
    obtain rfl := between.antisymm further
    decide

end ConfigSource

end CallSieve

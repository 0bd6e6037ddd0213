import RestModel.Command.Run
import RestModel.Proofs.Command.Session
import RestModel.Proofs.FileTree.Growth
import RestModel.Proofs.Path.Inside

/-!
# What writing leaves alone

Directories are made only where nothing stands, and a file is written only where its path leads.
Writing generated files therefore changes no file at any other place, and if their paths stay
inside, no file outside the output directory.
-/

namespace RestModel

namespace FileTree

variable {tree after : FileTree} {place : Location} {parts : List String}

/-- Two trees have the same files outside a directory. -/
def SameFilesOutside (directory : Location) (before after : FileTree) : Prop :=
  ∀ place, ¬ directory <+: place → ∀ content,
    after.get? place = some (.file content) ↔ before.get? place = some (.file content)

/-- A walk that succeeds ends where its segments lead. -/
theorem eq_foldl_step_of_walk {final : Location} (hparts : "" ∉ parts)
    (hwalk : tree.walk place parts = .ok final) : final = parts.foldl Path.step place := by
  induction parts generalizing place with
  | nil => exact (Except.ok.inj hwalk).symm
  | cons segment rest ih =>
      rw [List.mem_cons, not_or] at hparts
      rw [walk_cons_of_isDirectory (checkDirectory_of_walk_cons hwalk)] at hwalk
      rw [List.foldl_cons]
      split at hwalk
      · next hstay =>
        have hstep : Path.step place segment = place := by simp [Path.step, hstay]
        rw [hstep]
        exact ih hparts.2 hwalk
      · next hstay =>
        split at hwalk
        · next hup =>
          have hstep : Path.step place segment = place.dropLast := by simp [Path.step, hup]
          rw [hstep]
          exact ih hparts.2 hwalk
        · next hup =>
          have hdown : Path.IsDown segment := ⟨Ne.symm hparts.1, hstay, hup⟩
          rw [Path.step_of_isDown hdown]
          split at hwalk
          · exact absurd hwalk (by simp)
          · exact ih hparts.2 hwalk

theorem eq_directorySegments_of_pathSegments {path : String}
    (hparts : pathSegments path = .ok parts) : parts = Path.directorySegments path := by
  rw [pathSegments] at hparts
  split at hparts
  · exact absurd hparts (by simp)
  · split at hparts
    · exact absurd hparts (by simp)
    · split at hparts
      · exact absurd hparts (by simp)
      · exact (Except.ok.inj hparts).symm

theorem exists_of_writePath {path text : String}
    (hwritten : (pathSegments path).bind (tree.writeText · text) = .ok after) :
    ∃ parts, pathSegments path = .ok parts ∧ tree.writeText parts text = .ok after := by
  cases hparts : pathSegments path with
  | error cause =>
      rw [hparts] at hwritten
      exact absurd hwritten (by simp [Except.bind])
  | ok parts =>
      rw [hparts] at hwritten
      exact ⟨parts, rfl, hwritten⟩

/-- Writing to a path changes no file but the one to which the path leads. -/
theorem sameFiles_writeText {kept : Location → Prop} {path text : String}
    (hplace : ¬ kept (Path.locate [] path))
    (hwritten : (pathSegments path).bind (tree.writeText · text) = .ok after) :
    SameFiles kept tree after := by
  obtain ⟨parts, hparts, hmade⟩ := exists_of_writePath hwritten
  obtain ⟨place, hwalk, -, rfl⟩ := writeText_eq_ok_iff.mp hmade
  have hreached : place = Path.locate [] path := by
    rw [eq_directorySegments_of_pathSegments hparts] at hwalk
    rw [eq_foldl_step_of_walk (Path.empty_not_mem_directorySegments path) hwalk,
      Path.foldl_step_directorySegments]
  intro other hkept content
  have hother : other ≠ place := by
    rintro rfl
    exact hplace (hreached ▸ hkept)
  rw [get?_set_of_ne _ hother]

end FileTree

namespace Action

open FileTree

variable {α β : Type} {session : Session} {kept : Location → Prop}

/-- An action leaves the files at the kept places as they are, whether it succeeds or fails. -/
def KeepsFiles (kept : Location → Prop) (action : Action α) (session : Session) : Prop :=
  SameFiles kept session.tree (action.run.run session).2.tree

/-- An action leaves the files outside a directory as they are, whether it succeeds or fails. -/
def KeepsOutside (directory : Location) (action : Action α) (session : Session) : Prop :=
  SameFilesOutside directory session.tree (action.run.run session).2.tree

theorem KeepsFiles.bind {action : Action α} {next : α → Action β}
    (hkeeps : KeepsFiles kept action session)
    (hnext : ∀ value after, action.run.run session = (.ok value, after) →
      KeepsFiles kept (next value) after) :
    KeepsFiles kept (action >>= next) session := by
  rcases hrun : action.run.run session with ⟨result, after⟩
  rw [KeepsFiles, hrun] at hkeeps
  cases result with
  | ok value =>
      rw [KeepsFiles, run_bind_of_ok hrun]
      exact hkeeps.trans (hnext value after hrun)
  | error failure =>
      rw [KeepsFiles, run_bind_of_error hrun]
      exact hkeeps

theorem Yields.keepsFiles {action : Action α} {value : α}
    (hyields : action.Yields session value) : KeepsFiles kept action session := by
  obtain ⟨after, hrun, htree⟩ := hyields
  rw [KeepsFiles, hrun, htree]
  exact .refl kept session.tree

theorem keepsFiles_makeDirectories (failure : SystemError → Failure) (path : String) :
    KeepsFiles kept (makeDirectories failure path) session := by
  rw [KeepsFiles, run_makeDirectories]
  cases directoryParts path with
  | error cause => exact .refl kept session.tree
  | ok parts => exact (addsDirectories_makeDirectories session.tree parts).sameFiles kept

theorem keepsFiles_writeFile {path : String} (text : String)
    (hplace : ¬ kept (Path.locate [] path)) : KeepsFiles kept (writeFile path text) session := by
  rw [KeepsFiles, run_writeFile]
  cases hwritten : (pathSegments path).bind (session.tree.writeText · text) with
  | error cause => exact .refl kept session.tree
  | ok tree => exact sameFiles_writeText hplace hwritten

theorem keepsFiles_forM {write : α → Action Unit} {items : List α}
    (hkeeps : ∀ item ∈ items, ∀ after, KeepsFiles kept (write item) after) :
    KeepsFiles kept (items.forM write) session := by
  induction items generalizing session with
  | nil => exact .refl kept session.tree
  | cons item rest ih =>
      refine KeepsFiles.bind (hkeeps item List.mem_cons_self session) fun _ _ _ => ?_
      exact ih (fun other hother => hkeeps other (List.mem_cons_of_mem item hother))

theorem keepsFiles_writeGenerated {target : String} {file : JavaScript.File}
    (hplace : ¬ kept (Path.locate [] (Path.join target file.path))) :
    KeepsFiles kept (writeGenerated target file) session := by
  refine (keepsFiles_makeDirectories _ _).bind fun _ _ _ => ?_
  refine (keepsFiles_writeFile _ hplace).bind fun _ _ _ => ?_
  exact (yields_tell _).keepsFiles

/-- Writing generated files changes no file but those to which their paths lead. -/
theorem keepsFiles_writeOutput {target : String} {files : List JavaScript.File}
    (hplaces : ∀ file ∈ files, ¬ kept (Path.locate [] (Path.join target file.path))) :
    KeepsFiles kept (writeOutput target files) session := by
  refine (keepsFiles_makeDirectories _ _).bind fun _ _ _ => ?_
  refine KeepsFiles.bind ?_ fun _ _ _ => (yields_tell _).keepsFiles
  apply keepsFiles_forM
  intro file hfile _
  exact keepsFiles_writeGenerated (hplaces file hfile)

/-- Writing generated files changes no file outside the output directory. -/
theorem keepsOutside_writeOutput (target : String) {files : List JavaScript.File}
    (hinside : ∀ file ∈ files, Path.IsInside file.path) (session : Session) :
    KeepsOutside (Path.locate [] target) (writeOutput target files) session := by
  have hkeeps : KeepsFiles (fun place => ¬ Path.locate [] target <+: place)
      (writeOutput target files) session := by
    apply keepsFiles_writeOutput
    intro file hfile
    exact not_not_intro (Path.prefix_locate_join (hinside file hfile) target)
  exact hkeeps

end Action

end RestModel

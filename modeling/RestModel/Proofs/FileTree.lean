import RestModel.FileTree
import RestModel.Proofs.OrderedMap

/-!
# Deleting files

Deleting files leaves the directories of a tree.  Every path to a directory leads to the same place
as before, and the other files keep their contents and their order.
-/

namespace RestModel

namespace FileTree

variable {tree : FileTree} {isDeleted : Location → Bool} {place : Location}

/-- Whether an entry stays when the files at some places are deleted. -/
def stays (isDeleted : Location → Bool) (place : Location) : Entry → Bool
  | .file _ => !isDeleted place
  | .directory => true

/-- The tree without the files at some places. -/
def deleteFiles (tree : FileTree) (isDeleted : Location → Bool) : FileTree :=
  ⟨tree.entries.filter (stays isDeleted)⟩

theorem get?_deleteFiles :
    (tree.deleteFiles isDeleted).get? place = (tree.get? place).filter (stays isDeleted place) := by
  rw [get?, get?]
  split
  · rfl
  · exact OrderedMap.get?_filter (stays isDeleted) tree.entries place

/-! ## Directories -/

theorem checkDirectory_eq_ok_iff :
    tree.checkDirectory place = .ok () ↔ tree.get? place = some .directory := by
  rw [checkDirectory]
  split <;> simp_all

theorem checkDirectory_deleteFiles :
    (tree.deleteFiles isDeleted).checkDirectory place = .ok () ↔
      tree.checkDirectory place = .ok () := by
  rw [checkDirectory_eq_ok_iff, checkDirectory_eq_ok_iff, get?_deleteFiles,
    Option.filter_eq_some_iff]
  exact and_iff_left rfl

/-- Where a walk goes from a directory. -/
theorem walk_cons_of_isDirectory {segment : String} {rest : List String}
    (hdirectory : tree.checkDirectory place = .ok ()) :
    tree.walk place (segment :: rest) =
      if segment = "." then tree.walk place rest
      else if segment = ".." then tree.walk place.dropLast rest
      else if longestName < segment.utf8ByteSize then .error .nameTooLong
      else tree.walk (place ++ [segment]) rest := by
  rw [walk, hdirectory]

theorem checkDirectory_of_walk_cons {segment : String} {rest : List String} {final : Location}
    (hwalk : tree.walk place (segment :: rest) = .ok final) :
    tree.checkDirectory place = .ok () := by
  rw [walk] at hwalk
  split at hwalk
  · exact absurd hwalk (by simp)
  · next hdirectory => exact hdirectory

/-- A walk that succeeds passes directories only, so it does not notice that files are missing. -/
theorem walk_deleteFiles {parts : List String} {final : Location} :
    (tree.deleteFiles isDeleted).walk place parts = .ok final ↔
      tree.walk place parts = .ok final := by
  induction parts generalizing place with
  | nil => rfl
  | cons segment rest ih =>
      by_cases hdirectory : tree.checkDirectory place = .ok ()
      · rw [walk_cons_of_isDirectory hdirectory,
          walk_cons_of_isDirectory (checkDirectory_deleteFiles.mpr hdirectory)]
        split
        · exact ih
        · split
          · exact ih
          · split
            · rfl
            · exact ih
      · constructor
        · intro hwalk
          exact absurd (checkDirectory_deleteFiles.mp (checkDirectory_of_walk_cons hwalk)) hdirectory
        · intro hwalk
          exact absurd (checkDirectory_of_walk_cons hwalk) hdirectory

theorem directory?_eq_some_iff {path : String} : tree.directory? path = some place ↔
    ∃ parts, pathSegments path = .ok parts ∧ tree.walk [] parts = .ok place ∧
      tree.checkDirectory place = .ok () := by
  rw [directory?]
  cases pathSegments path with
  | error _ => simp [bind, Except.bind]
  | ok parts =>
      have hbind : (Except.ok parts >>= tree.walk []) = tree.walk [] parts := rfl
      rw [hbind]
      cases hwalk : tree.walk [] parts with
      | error _ => simp [hwalk]
      | ok found =>
          by_cases hsame : found = place
          · cases hcheck : tree.checkDirectory place <;>
              simp [hwalk, hsame, hcheck, Except.isOk, Except.toBool]
          · simp [hwalk, hsame]

theorem directory?_deleteFiles (path : String) :
    (tree.deleteFiles isDeleted).directory? path = tree.directory? path := by
  ext place
  simp only [directory?_eq_some_iff, walk_deleteFiles, checkDirectory_deleteFiles]

/-! ## Files -/

theorem mem_files {content : ByteArray} :
    (place, content) ∈ tree.files ↔ (place, .file content) ∈ tree.entries.entries := by
  rw [files, List.mem_mergeSort, List.mem_filterMap]
  constructor
  · rintro ⟨⟨other, entry⟩, hmem, hfile⟩
    cases entry with
    | directory => exact absurd hfile (by simp)
    | file found =>
        simp only [Option.some.injEq, Prod.mk.injEq] at hfile
        rwa [← hfile.1, ← hfile.2]
  · intro hmem
    exact ⟨_, hmem, rfl⟩

theorem get?_of_mem_files {content : ByteArray} (hmem : (place, content) ∈ tree.files)
    (hplace : place ≠ []) : tree.get? place = some (.file content) := by
  rw [get?, if_neg (by simpa using hplace)]
  exact OrderedMap.get?_eq_some_iff.mpr (mem_files.mp hmem)

theorem read_of_mem_files {content : ByteArray} (hmem : (place, content) ∈ tree.files)
    (hplace : place ≠ []) : tree.read place = .ok content := by
  rw [read, get?_of_mem_files hmem hplace]

theorem exists_file_of_isOk_read (hread : (tree.read place).isOk = true) :
    ∃ content, tree.get? place = some (.file content) := by
  rw [read] at hread
  split at hread
  · next content hfile => exact ⟨content, hfile⟩
  · exact absurd hread (by simp [Except.isOk, Except.toBool])
  · exact absurd hread (by simp [Except.isOk, Except.toBool])

theorem get?_deleteFiles_of_kept (hkept : isDeleted place = false) :
    (tree.deleteFiles isDeleted).get? place = tree.get? place := by
  have hstays : ∀ entry, stays isDeleted place entry = true := by
    intro entry
    cases entry <;> simp [stays, hkept]
  rw [get?_deleteFiles]
  cases tree.get? place with
  | none => rfl
  | some entry => exact Option.filter_some_pos (hstays entry)

theorem read_deleteFiles (hkept : isDeleted place = false) :
    (tree.deleteFiles isDeleted).read place = tree.read place := by
  rw [read, read, get?_deleteFiles_of_kept hkept]

theorem comesBefore_trans (first second third : Location)
    (hfirst : comesBefore first second = true) (hsecond : comesBefore second third = true) :
    comesBefore first third = true := by
  simp only [comesBefore, Bool.not_eq_true', decide_eq_false_iff_not] at *
  exact List.le_trans hfirst hsecond

theorem comesBefore_total (left right : Location) :
    (comesBefore left right || comesBefore right left) = true := by
  simp only [comesBefore, Bool.or_eq_true, Bool.not_eq_true', decide_eq_false_iff_not]
  exact List.le_total left right

theorem comesBefore_antisymm {left right : Location} (hleft : comesBefore left right = true)
    (hright : comesBefore right left = true) : left = right := by
  simp only [comesBefore, Bool.not_eq_true', decide_eq_false_iff_not] at *
  exact List.le_antisymm hleft hright

theorem pairwise_files (tree : FileTree) :
    tree.files.Pairwise (fun left right => comesBefore left.1 right.1 = true) :=
  List.pairwise_mergeSort (fun first second third => comesBefore_trans first.1 second.1 third.1)
    (fun left right => comesBefore_total left.1 right.1) _

theorem nodup_files (tree : FileTree) : tree.files.Nodup := by
  rw [files, (List.mergeSort_perm _ _).nodup_iff]
  apply List.Nodup.filterMap
  · rintro ⟨place, entry⟩ ⟨other, found⟩ file hfile hfound
    cases entry with
    | directory => exact absurd hfile (by simp)
    | file content =>
        cases found with
        | directory => exact absurd hfound (by simp)
        | file content =>
          simp only [Option.mem_def, Option.some.injEq] at hfile hfound
          obtain ⟨rfl, rfl⟩ := Prod.mk.injEq .. ▸ hfile.trans hfound.symm
          rfl
  · exact List.Nodup.of_map Prod.fst tree.entries.nodup

/-- Parts of two listings are equal if they hold the same files. -/
theorem eq_of_sublist_files {other : FileTree} {left right : List (Location × ByteArray)}
    (hleft : left.Sublist tree.files) (hright : right.Sublist other.files)
    (hsame : ∀ file, file ∈ left ↔ file ∈ right) : left = right := by
  have hperm : left.Perm right :=
    (List.perm_ext_iff_of_nodup ((nodup_files tree).sublist hleft)
      ((nodup_files other).sublist hright)).mpr hsame
  apply hperm.eq_of_pairwise ?_ ((pairwise_files tree).sublist hleft)
    ((pairwise_files other).sublist hright)
  rintro ⟨place, content⟩ ⟨other, found⟩ hcontent hfound hbefore hbehind
  obtain rfl : place = other := comesBefore_antisymm hbefore hbehind
  have hentry := mem_files.mp (hleft.subset hcontent)
  have hother := mem_files.mp (hleft.subset ((hsame _).mpr hfound))
  injection OrderedMap.eq_of_mem_entries hentry hother with hbytes
  rw [hbytes]

/-- The files that stay are listed in the same order as before. -/
theorem files_deleteFiles (tree : FileTree) (isDeleted : Location → Bool) :
    (tree.deleteFiles isDeleted).files = tree.files.filter (fun file => !isDeleted file.1) := by
  apply eq_of_sublist_files (List.Sublist.refl _) List.filter_sublist
  rintro ⟨place, content⟩
  rw [mem_files, List.mem_filter, mem_files, deleteFiles, OrderedMap.filter, List.mem_filter]
  rfl

end FileTree

end RestModel

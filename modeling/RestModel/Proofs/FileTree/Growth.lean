import RestModel.Proofs.FileTree

/-!
# How file trees grow

Making directories adds directories where nothing stood, and writing a file changes one place.  No
operation removes anything or turns a file into a directory, so a path that leads to a place keeps
leading there.  Making directories that are there changes nothing, and when they could not all be
made, a second attempt makes no more of them.
-/

namespace RestModel

/-- Whether a directory and no file stands at a place. -/
def Entry.isDirectory : Entry → Bool
  | .directory => true
  | .file _ => false

namespace FileTree

variable {tree later made : FileTree} {place final : Location} {parts : List String}

theorem get?_of_ne_nil (hplace : place ≠ []) : tree.get? place = tree.entries.get? place := by
  rw [get?, if_neg (by simpa using hplace)]

theorem entries_get?_set (tree : FileTree) (place other : Location) (entry : Entry) :
    (tree.set place entry).entries.get? other =
      if other = place then some entry else tree.entries.get? other :=
  OrderedMap.get?_insert tree.entries place other entry

theorem get?_set_of_ne {other : Location} (entry : Entry) (hne : other ≠ place) :
    (tree.set place entry).get? other = tree.get? other := by
  rw [get?, get?, entries_get?_set, if_neg hne]

/-- A place where nothing stands, or a file, is not the working directory. -/
theorem ne_nil_of_get?_ne (hplace : tree.get? place ≠ some .directory) : place ≠ [] := by
  rintro rfl
  exact hplace rfl

theorem entries_get?_of_get?_eq_none (hfree : tree.get? place = none) :
    tree.entries.get? place = none := by
  rwa [get?_of_ne_nil (ne_nil_of_get?_ne (by rw [hfree]; simp))] at hfree

/-! ## Relations between trees -/

/-- The later tree has at most some more directories. -/
def AddsDirectories (tree later : FileTree) : Prop :=
  ∀ place, later.entries.get? place = tree.entries.get? place ∨
    tree.get? place = none ∧ later.entries.get? place = some .directory

theorem AddsDirectories.refl (tree : FileTree) : tree.AddsDirectories tree :=
  fun _ => Or.inl rfl

theorem AddsDirectories.get?_eq (hadds : tree.AddsDirectories later) (place : Location) :
    later.get? place = tree.get? place ∨
      tree.get? place = none ∧ later.get? place = some .directory := by
  by_cases hroot : place = []
  · subst hroot
    exact Or.inl rfl
  · have hplace := hadds place
    simp only [get?_of_ne_nil hroot] at hplace ⊢
    exact hplace

theorem AddsDirectories.trans {last : FileTree} (hearlier : tree.AddsDirectories later)
    (hlater : later.AddsDirectories last) : tree.AddsDirectories last := by
  intro place
  rcases hlater place with hsame | ⟨hfree, hmade⟩
  · rw [hsame]
    exact hearlier place
  · rcases hearlier.get?_eq place with hsame | ⟨-, hdirectory⟩
    · exact Or.inr ⟨hsame ▸ hfree, hmade⟩
    · exact absurd (hfree.symm.trans hdirectory) (by simp)

/-- Where the tree has a directory or a file, the later tree has one too. -/
def GrowsTo (tree later : FileTree) : Prop :=
  ∀ place entry, tree.get? place = some entry →
    ∃ new, later.get? place = some new ∧ new.isDirectory = entry.isDirectory

theorem GrowsTo.refl (tree : FileTree) : tree.GrowsTo tree :=
  fun _ entry hentry => ⟨entry, hentry, rfl⟩

theorem GrowsTo.trans {last : FileTree} (hearlier : tree.GrowsTo later)
    (hlater : later.GrowsTo last) : tree.GrowsTo last := by
  intro place entry hentry
  obtain ⟨new, hnew, hkind⟩ := hearlier place entry hentry
  obtain ⟨newest, hnewest, hlast⟩ := hlater place new hnew
  exact ⟨newest, hnewest, hlast.trans hkind⟩

theorem AddsDirectories.growsTo (hadds : tree.AddsDirectories later) : tree.GrowsTo later := by
  intro place entry hentry
  rcases hadds.get?_eq place with hsame | ⟨hfree, -⟩
  · exact ⟨entry, hsame.trans hentry, rfl⟩
  · exact absurd (hfree.symm.trans hentry) (by simp)

theorem GrowsTo.get?_directory (hgrows : tree.GrowsTo later)
    (hdirectory : tree.get? place = some .directory) : later.get? place = some .directory := by
  obtain ⟨new, hnew, hkind⟩ := hgrows place .directory hdirectory
  cases new with
  | directory => exact hnew
  | file content => exact Bool.noConfusion hkind

theorem GrowsTo.get?_file (hgrows : tree.GrowsTo later) {content : ByteArray}
    (hfile : tree.get? place = some (.file content)) :
    ∃ new, later.get? place = some (.file new) := by
  obtain ⟨new, hnew, hkind⟩ := hgrows place (.file content) hfile
  cases new with
  | directory => exact Bool.noConfusion hkind
  | file new => exact ⟨new, hnew⟩

/-- Two trees have the same files at the kept places. -/
def SameFiles (kept : Location → Prop) (before after : FileTree) : Prop :=
  ∀ place, kept place → ∀ content,
    after.get? place = some (.file content) ↔ before.get? place = some (.file content)

namespace SameFiles

variable {kept : Location → Prop}

theorem refl (kept : Location → Prop) (tree : FileTree) : SameFiles kept tree tree :=
  fun _ _ _ => Iff.rfl

theorem trans {last : FileTree} (hearlier : SameFiles kept tree later)
    (hlater : SameFiles kept later last) : SameFiles kept tree last :=
  fun place hkept content => (hlater place hkept content).trans (hearlier place hkept content)

end SameFiles

theorem AddsDirectories.sameFiles (hadds : tree.AddsDirectories later)
    (kept : Location → Prop) : SameFiles kept tree later := by
  intro place _ content
  rcases hadds.get?_eq place with hsame | ⟨hfree, hdirectory⟩
  · rw [hsame]
  · rw [hfree, hdirectory]
    simp

/-! ## Walking in a tree that has grown -/

theorem GrowsTo.checkDirectory (hgrows : tree.GrowsTo later)
    (hdirectory : tree.checkDirectory place = .ok ()) : later.checkDirectory place = .ok () :=
  checkDirectory_eq_ok_iff.mpr (hgrows.get?_directory (checkDirectory_eq_ok_iff.mp hdirectory))

theorem GrowsTo.walk (hgrows : tree.GrowsTo later) (hwalk : tree.walk place parts = .ok final) :
    later.walk place parts = .ok final := by
  induction parts generalizing place with
  | nil => exact hwalk
  | cons segment rest ih =>
      have hdirectory := checkDirectory_of_walk_cons hwalk
      rw [walk_cons_of_isDirectory hdirectory] at hwalk
      rw [walk_cons_of_isDirectory (hgrows.checkDirectory hdirectory)]
      split_ifs at hwalk ⊢ with hstay hup
      · exact ih hwalk
      · exact ih hwalk
      · exact ih hwalk

theorem GrowsTo.directory? (hgrows : tree.GrowsTo later) {path : String}
    (hfound : tree.directory? path = some place) : later.directory? path = some place := by
  rw [directory?_eq_some_iff] at hfound ⊢
  obtain ⟨parts, hparts, hwalk, hdirectory⟩ := hfound
  exact ⟨parts, hparts, hgrows.walk hwalk, hgrows.checkDirectory hdirectory⟩

theorem isDirectoryAt_iff : tree.isDirectoryAt parts = true ↔
    ∃ place, tree.walk [] parts = .ok place ∧ tree.get? place = some .directory := by
  simp only [← checkDirectory_eq_ok_iff]
  rw [isDirectoryAt]
  cases tree.walk [] parts with
  | error _ => simp
  | ok place => cases hcheck : tree.checkDirectory place <;> simp [hcheck, Except.isOk, Except.toBool]

theorem GrowsTo.isDirectoryAt (hgrows : tree.GrowsTo later)
    (hdirectory : tree.isDirectoryAt parts = true) : later.isDirectoryAt parts = true := by
  rw [isDirectoryAt_iff] at hdirectory ⊢
  obtain ⟨place, hwalk, hplace⟩ := hdirectory
  exact ⟨place, hgrows.walk hwalk, hgrows.get?_directory hplace⟩

/-! ## The way to a place -/

theorem makeDirectory_eq_ok_iff : tree.makeDirectory parts = .ok made ↔
    ∃ place, tree.walk [] parts = .ok place ∧ tree.get? place = none ∧
      made = tree.set place .directory := by
  simp only [makeDirectory, bind, Except.bind]
  cases tree.walk [] parts with
  | error _ => simp
  | ok place =>
      cases hfound : tree.get? place with
      | none => simp [hfound, pure, Except.pure, eq_comm]
      | some _ => simp [hfound, throw, throwThe, MonadExceptOf.throw]

theorem addsDirectories_set (hfree : tree.get? place = none) :
    tree.AddsDirectories (tree.set place .directory) := by
  intro other
  rw [entries_get?_set]
  split
  · next hsame => exact Or.inr ⟨hsame ▸ hfree, rfl⟩
  · exact Or.inl rfl

theorem addsDirectories_makeDirectory (hmade : tree.makeDirectory parts = .ok made) :
    tree.AddsDirectories made := by
  obtain ⟨place, -, hfree, rfl⟩ := makeDirectory_eq_ok_iff.mp hmade
  exact addsDirectories_set hfree

theorem isDirectoryAt_makeDirectory (hmade : tree.makeDirectory parts = .ok made) :
    made.isDirectoryAt parts = true := by
  have hgrows := (addsDirectories_makeDirectory hmade).growsTo
  obtain ⟨place, hwalk, hfree, rfl⟩ := makeDirectory_eq_ok_iff.mp hmade
  have hroot : place ≠ [] := ne_nil_of_get?_ne (by rw [hfree]; simp)
  refine isDirectoryAt_iff.mpr ⟨place, hgrows.walk hwalk, ?_⟩
  rw [get?_of_ne_nil hroot, entries_get?_set, if_pos rfl]

/-- Making a missing directory makes it or leaves the directory that is there. -/
theorem makeMissing_eq_ok_iff : tree.makeMissing parts = .ok made ↔
    tree.makeDirectory parts = .ok made ∨
      (∃ cause, tree.makeDirectory parts = .error cause) ∧ tree.isDirectoryAt parts = true ∧
        made = tree := by
  rw [makeMissing]
  cases tree.makeDirectory parts with
  | ok new => simp
  | error cause => cases tree.isDirectoryAt parts <;> simp [eq_comm]

theorem addsDirectories_makeMissing (hmade : tree.makeMissing parts = .ok made) :
    tree.AddsDirectories made := by
  rcases makeMissing_eq_ok_iff.mp hmade with hnew | ⟨-, -, rfl⟩
  · exact addsDirectories_makeDirectory hnew
  · exact .refl made

theorem isDirectoryAt_makeMissing (hmade : tree.makeMissing parts = .ok made) :
    made.isDirectoryAt parts = true := by
  rcases makeMissing_eq_ok_iff.mp hmade with hnew | ⟨-, hdirectory, rfl⟩
  · exact isDirectoryAt_makeDirectory hnew
  · exact hdirectory

theorem addsDirectories_makeDirectories (tree : FileTree) (parts : List String) :
    tree.AddsDirectories (tree.makeDirectories parts).1 := by
  fun_induction makeDirectories tree parts with
  | case1 => exact .refl _
  | case2 _ _ made hmade => exact addsDirectories_makeDirectory hmade
  | case3 _ _ _ behind _ hbehind ih =>
      rw [hbehind] at ih
      exact ih
  | case4 _ _ _ behind hbehind made hmade ih =>
      rw [hbehind] at ih
      exact ih.trans (addsDirectories_makeMissing hmade)
  | case5 _ _ _ behind hbehind _ _ ih =>
      rw [hbehind] at ih
      exact ih
  | case6 => exact .refl _
  | case7 => exact .refl _

/-- Where directories were made without a problem, there is a directory. -/
theorem isDirectoryAt_makeDirectories (hmade : tree.makeDirectories parts = (made, none)) :
    made.isDirectoryAt parts = true := by
  revert hmade
  fun_cases makeDirectories tree parts with
  | case1 => exact fun _ => rfl
  | case2 _ _ new hnew =>
      rintro ⟨⟩
      exact isDirectoryAt_makeDirectory hnew
  | case3 => exact fun hfailed => absurd hfailed (by simp)
  | case4 _ _ _ behind hbehind new hnew =>
      rintro ⟨⟩
      exact isDirectoryAt_makeMissing hnew
  | case5 => exact fun hfailed => absurd hfailed (by simp)
  | case6 _ _ _ _ _ hdirectory =>
      rintro ⟨⟩
      exact hdirectory
  | case7 => exact fun hfailed => absurd hfailed (by simp)

/-- Making a directory that is there changes nothing. -/
theorem makeDirectories_of_isDirectoryAt (hdirectory : tree.isDirectoryAt parts = true) :
    tree.makeDirectories parts = (tree, none) := by
  obtain ⟨place, hwalk, hplace⟩ := isDirectoryAt_iff.mp hdirectory
  cases parts with
  | nil => rw [makeDirectories]
  | cons first rest =>
      have hexists : tree.makeDirectory (first :: rest) = .error .fileExists := by
        simp [makeDirectory, hwalk, hplace, bind, Except.bind, throw, throwThe,
          MonadExceptOf.throw]
      rw [makeDirectories, hexists]
      simp [hdirectory]

theorem writeText_eq_ok_iff {text : String} : tree.writeText parts text = .ok made ↔
    ∃ place, tree.walk [] parts = .ok place ∧ tree.get? place ≠ some .directory ∧
      made = tree.set place (.file text.toUTF8) := by
  simp only [writeText, bind, Except.bind]
  cases tree.walk [] parts with
  | error _ => simp
  | ok place =>
      rcases hfound : tree.get? place with _ | (content | _)
      · simp [hfound, pure, Except.pure, eq_comm]
      · simp [hfound, pure, Except.pure, eq_comm]
      · simp [hfound, throw, throwThe, MonadExceptOf.throw]

theorem growsTo_set_file (hplace : tree.get? place ≠ some .directory) (content : ByteArray) :
    tree.GrowsTo (tree.set place (.file content)) := by
  intro other entry hentry
  by_cases hsame : other = place
  · subst hsame
    refine ⟨.file content, ?_, ?_⟩
    · rw [get?_of_ne_nil (ne_nil_of_get?_ne hplace), entries_get?_set, if_pos rfl]
    · cases entry with
      | directory => exact absurd hentry hplace
      | file old => rfl
  · exact ⟨entry, (get?_set_of_ne _ hsame).trans hentry, rfl⟩

theorem growsTo_writeText {text : String} (hwritten : tree.writeText parts text = .ok made) :
    tree.GrowsTo made := by
  obtain ⟨place, -, hplace, rfl⟩ := writeText_eq_ok_iff.mp hwritten
  exact growsTo_set_file hplace _

end FileTree

end RestModel

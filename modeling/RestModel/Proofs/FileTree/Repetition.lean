import RestModel.Proofs.FileTree.Growth

/-!
# Operations on a tree that has seen them

A run of operations leads from a first tree to a last one.  When the run is repeated on the last
tree, each place has at every moment what the last tree has there, or what the first run had left
there at that moment.  So every operation succeeds again, and at the end of the second run nothing
differs from the last tree.
-/

namespace RestModel.FileTree

variable {first later last tree : FileTree} {place : Location} {parts : List String}

/-- A tree has the places of the last tree, in order, and at each of them what the last tree has
there or what the first tree had there. -/
structure Between (first last tree : FileTree) : Prop where
  keys : tree.entries.keys = last.entries.keys
  entries : ∀ place, tree.entries.get? place = last.entries.get? place ∨
    tree.entries.get? place = first.entries.get? place ∧ place ∈ first.entries.keys

theorem AddsDirectories.entries_get?_eq (hadds : first.AddsDirectories later)
    (hplace : place ∈ first.entries.keys) :
    later.entries.get? place = first.entries.get? place := by
  obtain ⟨entry, hentry⟩ := OrderedMap.mem_keys_iff.mp hplace
  rcases hadds place with hsame | ⟨hfree, -⟩
  · exact hsame
  · exact absurd ((entries_get?_of_get?_eq_none hfree).symm.trans hentry) (by simp)

namespace Between

/-- Nothing that the last tree has is missing. -/
theorem growsTo (hbetween : Between first last tree) (hgrows : first.GrowsTo last) :
    last.GrowsTo tree := by
  intro place entry hentry
  by_cases hroot : place = []
  · subst hroot
    exact ⟨entry, hentry, rfl⟩
  · rw [get?_of_ne_nil hroot] at hentry ⊢
    rcases hbetween.entries place with hlast | ⟨hfirst, hplace⟩
    · exact ⟨entry, hlast.trans hentry, rfl⟩
    · obtain ⟨old, hold⟩ := OrderedMap.mem_keys_iff.mp hplace
      obtain ⟨new, hnew, hkind⟩ := hgrows place old ((get?_of_ne_nil hroot).trans hold)
      rw [get?_of_ne_nil hroot, hentry] at hnew
      refine ⟨old, hfirst.trans hold, ?_⟩
      rw [← hkind, Option.some.inj hnew]

theorem addsDirectories (hbetween : Between first last tree)
    (hadds : first.AddsDirectories later) : Between later last tree where
  keys := hbetween.keys
  entries place := by
    rcases hbetween.entries place with hlast | ⟨hfirst, hplace⟩
    · exact Or.inl hlast
    · have hsame := hadds.entries_get?_eq hplace
      right
      refine ⟨hfirst.trans hsame.symm, ?_⟩
      rw [OrderedMap.mem_keys_iff] at hplace ⊢
      rwa [hsame]

theorem set (hbetween : Between first last tree) (hplace : place ∈ last.entries.keys)
    (entry : Entry) : Between (first.set place entry) last (tree.set place entry) where
  keys := by
    rw [FileTree.set, OrderedMap.keys_insert, hbetween.keys, if_pos hplace]
  entries other := by
    rw [entries_get?_set, entries_get?_set]
    by_cases hother : other = place
    · subst hother
      right
      rw [if_pos rfl, if_pos rfl, OrderedMap.mem_keys_iff, entries_get?_set, if_pos rfl]
      exact ⟨rfl, entry, rfl⟩
    · rw [if_neg hother, if_neg hother, OrderedMap.mem_keys_iff, entries_get?_set, if_neg hother,
        ← OrderedMap.mem_keys_iff]
      exact hbetween.entries other

/-! ## Repeated operations -/

/-- Directories that were made are there the second time. -/
theorem makeDirectories (hbetween : Between first last tree)
    (hmade : first.makeDirectories parts = (later, none)) (hgrows : later.GrowsTo last) :
    tree.makeDirectories parts = (tree, none) ∧ Between later last tree := by
  have hadds : first.AddsDirectories later := by
    have hadds := addsDirectories_makeDirectories first parts
    rwa [hmade] at hadds
  have hlast := hbetween.growsTo (hadds.growsTo.trans hgrows)
  have hthere := hgrows.isDirectoryAt (isDirectoryAt_makeDirectories hmade)
  exact ⟨makeDirectories_of_isDirectoryAt (hlast.isDirectoryAt hthere),
    hbetween.addsDirectories hadds⟩

/-- A text that was written can be written again in its place. -/
theorem writeText {text : String} (hbetween : Between first last tree)
    (hwritten : first.writeText parts text = .ok later) (hgrows : later.GrowsTo last) :
    ∃ again, tree.writeText parts text = .ok again ∧ Between later last again := by
  have hfirst := growsTo_writeText hwritten
  have hlast := hbetween.growsTo (hfirst.trans hgrows)
  obtain ⟨place, hwalk, hplace, rfl⟩ := writeText_eq_ok_iff.mp hwritten
  have hroot := ne_nil_of_get?_ne hplace
  have hfile : (first.set place (.file text.toUTF8)).get? place =
      some (.file text.toUTF8) := by
    rw [get?_of_ne_nil hroot, entries_get?_set, if_pos rfl]
  obtain ⟨content, hcontent⟩ := hgrows.get?_file hfile
  obtain ⟨found, hfound⟩ := hlast.get?_file hcontent
  refine ⟨tree.set place (.file text.toUTF8), ?_, ?_⟩
  · refine writeText_eq_ok_iff.mpr ⟨place, hlast.walk ((hfirst.trans hgrows).walk hwalk), ?_, rfl⟩
    rw [hfound]
    simp
  · apply hbetween.set
    rw [OrderedMap.mem_keys_iff]
    exact ⟨_, (get?_of_ne_nil hroot).symm.trans hcontent⟩

end Between

end RestModel.FileTree

import RestModel.Command.Run
import RestModel.Proofs.Command.Session
import RestModel.Proofs.Loading

/-!
# Commands and broken documents

A command that reads documents skips the broken ones.  What it compiles is what it would compile if
their files did not exist; only their number is left of them, which decides whether validating
succeeds.
-/

namespace RestModel

open Discovery

/-! ## The options of a project -/

theorem Discovery.kindBelow?_fileName (rootPlace : Location) :
    kindBelow? rootPlace [Options.fileName] = none := by
  have hextension : kindBelow? [] [Options.fileName] = none := by decide +kernel
  cases rootPlace with
  | nil => exact hextension
  | cons first rest =>
      rw [kindBelow?, List.isPrefixOf?]
      split
      · cases rest with
        | nil => rfl
        | cons next others => rfl
      · rfl

/-- The options depend on what stands at the place of their file only. -/
theorem Options.ofTree?_congr {tree later : FileTree}
    (hfound : later.get? [fileName] = tree.get? [fileName]) : ofTree? later = ofTree? tree := by
  rw [ofTree?, ofTree?, FileTree.readText, FileTree.readText, FileTree.read, FileTree.read, hfound]

/-- The file with the options is no document, so it is never broken. -/
theorem Options.ofTree?_withoutBroken (tree : FileTree) (rootPlace : Location) :
    ofTree? (withoutBroken tree rootPlace) = ofTree? tree := by
  have hkept : (brokenPlaces tree rootPlace).contains [fileName] = false := by
    rw [← Bool.not_eq_true, List.contains_iff_mem, brokenPlaces, List.mem_map]
    rintro ⟨⟨place, content⟩, hmem, rfl⟩
    have hbroken := (List.mem_filter.mp hmem).2
    rw [isBroken, kindBelow?_fileName] at hbroken
    exact absurd hbroken (by simp)
  exact ofTree?_congr (FileTree.get?_deleteFiles_of_kept hkept)

/-- The session without the broken documents below a directory. -/
def Session.withoutBroken (session : Session) (rootPlace : Location) : Session :=
  { session with tree := Discovery.withoutBroken session.tree rootPlace }

namespace Action

variable {session : Session} {root : String} {place : Location}

/-! ## Loading and compiling -/

theorem yields_loadOptions {options? : Option Options}
    (hoptions : Options.ofTree? session.tree = .ok options?) :
    loadOptions.Yields session (options?.getD .default) := by
  apply yields_currentTree.bind
  intro after _
  rw [hoptions]
  exact yields_pure _

theorem yields_loadDocuments (hroot : session.tree.directory? root = some place) :
    (loadDocuments root).Yields session (.ofRoot session.tree root place) := by
  apply yields_currentTree.bind
  intro after _
  rw [hroot]
  apply (yields_tell _).bind
  intro told _
  apply (yields_notify _).bind
  intro notified _
  exact yields_pure _

theorem yields_compileRoot (options : Options)
    (hroot : session.tree.directory? root = some place) :
    (compileRoot options root).Yields session
      (.ofDocuments options (LoadedDocuments.ofRoot session.tree root place).documents,
        (LoadedDocuments.ofRoot session.tree root place).failures.length) := by
  apply (yields_loadDocuments hroot).bind
  intro after _
  apply (yields_notify _).bind
  intro notified _
  exact yields_pure _

/-! ## Generating -/

/-- Write what a compilation generates into the directories. -/
def generateFrom (options : Options) (directories : Directories) (compilation : Compilation)
    (skipped : Nat) : Action Unit := do
  let interface := compilation.interface
  tell ("server-side types will be written to " ++ directories.serverOutput)
  notify (interface.types.flatMap JavaScript.serverNotices)
  writeOutput directories.serverOutput (JavaScript.serverFiles interface)
  tell ("client-side types will be written to " ++ directories.clientOutput)
  notify (interface.types.flatMap JavaScript.clientNotices)
  writeOutput directories.clientOutput (JavaScript.clientFiles interface options.client)
  (interface.diagnostics.filterMap warningLine?).forM tell
  tell (generatedLine compilation skipped)

/-- The directories that generating uses. -/
def chosenDirectories (options : Options) (directories? : Option Directories) : Directories :=
  directories?.getD ⟨options.apiRoot, options.clientOutput, options.serverOutput⟩

theorem generate_eq (directories? : Option Directories) : generate directories? = (do
    let options ← loadOptions
    let directories := chosenDirectories options directories?
    let compiled ← compileRoot options directories.apiRoot
    generateFrom options directories compiled.1 compiled.2) := rfl

/-- Generating compiles the documents below its root directory and then writes the result. -/
theorem generate_continues {options? : Option Options} {directories? : Option Directories}
    (hoptions : Options.ofTree? session.tree = .ok options?)
    (hchosen : (chosenDirectories (options?.getD .default) directories?).apiRoot = root)
    (hroot : session.tree.directory? root = some place) :
    (generate directories?).Continues session
      (generateFrom (options?.getD .default)
        (chosenDirectories (options?.getD .default) directories?)
        (.ofDocuments (options?.getD .default)
          (LoadedDocuments.ofRoot session.tree root place).documents)
        (LoadedDocuments.ofRoot session.tree root place).failures.length) := by
  subst hchosen
  rw [generate_eq]
  apply (yields_loadOptions hoptions).continues
  intro loaded hloaded
  rw [← hloaded] at hroot ⊢
  apply (yields_compileRoot (options?.getD .default) hroot).continues
  intro compiled _
  exact continues_self _

/-! ## Validating -/

theorem validate_continues {options? : Option Options}
    (hoptions : Options.ofTree? session.tree = .ok options?)
    (hroot : session.tree.directory? root = some place) :
    (validate root).Continues session
      (if (LoadedDocuments.ofRoot session.tree root place).failures.length = 0 then
        tell "Validation successful."
      else throw (.skippedDocuments
        (LoadedDocuments.ofRoot session.tree root place).failures.length)) := by
  apply (yields_loadOptions hoptions).continues
  intro loaded hloaded
  rw [← hloaded] at hroot ⊢
  apply (yields_compileRoot (options?.getD .default) hroot).continues
  intro compiled _
  apply (yields_forM_tell _).continues
  intro told _
  exact continues_self _

/-- Validating succeeds exactly if no document is skipped. -/
theorem code_validate_eq_zero_iff {options? : Option Options}
    (hoptions : Options.ofTree? session.tree = .ok options?)
    (hroot : session.tree.directory? root = some place) :
    (Outcome.ofCommand session.tree session.filter (.validate root)).code = 0 ↔
      (LoadedDocuments.ofRoot session.tree root place).failures.length = 0 := by
  have hcontinues : (validate root).Continues ⟨session.tree, session.filter, [], ""⟩ _ :=
    validate_continues hoptions hroot
  obtain ⟨after, hrun, -⟩ := hcontinues
  rw [Outcome.ofCommand, Command.action, hrun]
  split_ifs with hnone
  · exact iff_of_true rfl hnone
  · exact iff_of_false Nat.one_ne_zero hnone

/-! ## Broken documents -/

/-- Without its broken documents, a tree gives the same documents in the same order, and none of
them is skipped; so every command compiles the same.  In the whole tree the skipped documents are
counted, generating writes the same files as without them, and validating succeeds exactly if no
document is broken. -/
theorem skips_exactly_broken_documents (session : Session) (root : String) {place : Location}
    (hroot : session.tree.directory? root = some place) :
    (∃ loaded kept,
      (loadDocuments root).Yields session loaded ∧
      (loadDocuments root).Yields (session.withoutBroken place) kept ∧
      kept.documents = loaded.documents ∧ kept.failures = [] ∧
      loaded.failures.length = (brokenPlaces session.tree place).length) ∧
    (∀ options, ∃ compilation,
      (compileRoot options root).Yields session
        (compilation, (brokenPlaces session.tree place).length) ∧
      (compileRoot options root).Yields (session.withoutBroken place) (compilation, 0)) ∧
    (∀ options?, Options.ofTree? session.tree = .ok options? →
      (∀ directories?, (chosenDirectories (options?.getD .default) directories?).apiRoot = root →
        ∃ compilation,
          (generate directories?).Continues session
            (generateFrom (options?.getD .default)
              (chosenDirectories (options?.getD .default) directories?) compilation
              (brokenPlaces session.tree place).length) ∧
          (generate directories?).Continues (session.withoutBroken place)
            (generateFrom (options?.getD .default)
              (chosenDirectories (options?.getD .default) directories?) compilation 0)) ∧
      ((Outcome.ofCommand session.tree session.filter (.validate root)).code = 0 ↔
        brokenPlaces session.tree place = [])) := by
  have hcount := LoadedDocuments.length_failures_ofRoot session.tree root place
  have hdocuments := LoadedDocuments.documents_withoutBroken session.tree root place
  have hnone := LoadedDocuments.failures_withoutBroken session.tree root place
  have hkept : (session.withoutBroken place).tree.directory? root = some place :=
    (FileTree.directory?_deleteFiles root).trans hroot
  refine ⟨?_, ?_, ?_⟩
  · exact ⟨_, _, yields_loadDocuments hroot, yields_loadDocuments hkept, hdocuments, hnone, hcount⟩
  · intro options
    have hcompiled := yields_compileRoot options hroot
    have hsame := yields_compileRoot options hkept
    rw [hcount] at hcompiled
    rw [Session.withoutBroken, hdocuments, hnone] at hsame
    exact ⟨_, hcompiled, hsame⟩
  · intro options? hoptions
    constructor
    · intro directories? hchosen
      have hgenerated := generate_continues hoptions hchosen hroot
      have hstated : Options.ofTree? (session.withoutBroken place).tree = .ok options? :=
        (Options.ofTree?_withoutBroken session.tree place).trans hoptions
      have hsame := generate_continues hstated hchosen hkept
      rw [hcount] at hgenerated
      rw [Session.withoutBroken, hdocuments, hnone] at hsame
      exact ⟨_, hgenerated, hsame⟩
    · rw [code_validate_eq_zero_iff hoptions hroot, hcount, List.length_eq_zero_iff]

/-- Two schemas, of which one is cut off. -/
def brokenTree : FileTree :=
  ((FileTree.empty.set ["wadl"] .directory).set ["wadl", "broken.xsd"]
    (.file "<xs:schema><xs:element>".toUTF8)).set ["wadl", "empty.xsd"]
      (.file "<xs:schema></xs:schema>".toUTF8)

theorem code_validate_brokenTree : brokenTree.directory? "wadl" = some ["wadl"] ∧
    ["wadl", "broken.xsd"] ∈ brokenPlaces brokenTree ["wadl"] ∧
    (Outcome.ofCommand brokenTree none (.validate "wadl")).code ≠ 0 := by
  have hroot : brokenTree.directory? "wadl" = some ["wadl"] := by decide +kernel
  have hoptions : Options.ofTree? brokenTree = .ok none := by decide +kernel
  have hlisted : (["wadl", "broken.xsd"], "<xs:schema><xs:element>".toUTF8) ∈ brokenTree.files :=
    FileTree.mem_files.mpr (OrderedMap.get?_eq_some_iff.mp rfl)
  have hrejected : isBroken ["wadl"]
      (["wadl", "broken.xsd"], "<xs:schema><xs:element>".toUTF8) = true := by
    decide +kernel
  have hbroken : ["wadl", "broken.xsd"] ∈ brokenPlaces brokenTree ["wadl"] :=
    List.contains_iff_mem.mp ((contains_brokenPlaces hlisted).trans hrejected)
  have hskips := skips_exactly_broken_documents ⟨brokenTree, none, [], ""⟩ "wadl" hroot
  refine ⟨hroot, hbroken, ?_⟩
  rw [ne_eq, (hskips.2.2 none hoptions).2]
  exact List.ne_nil_of_mem hbroken

end Action

end RestModel

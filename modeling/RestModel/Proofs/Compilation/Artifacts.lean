import RestModel.Proofs.Command.Writing
import RestModel.Proofs.Compilation.Requires
import RestModel.Proofs.JavaScript.Artifacts

/-!
# The generated files of a compilation

Two generated files get the same path, or two types the same export, only through slashes in names,
through a type named like the index, or through names with the same identifier.  A file lies outside
the output directory only if the name of its type leads there.
-/

namespace RestModel.Compilation

open JavaScript

variable {options : Options} {documents : List SourceDocument}

/-! ## Nothing lost -/

/-- A compilation loses no artifact if paths and exports are told apart by what they are made from,
and in no other case.  Paths are told apart whenever no declared name has a slash. -/
theorem ofDocuments_keepsArtifacts_iff (options : Options) (documents : List SourceDocument)
    (client : ClientOptions) :
    (KeepsArtifacts (ofDocuments options documents).interface client ↔
      HasOwnStems (ofDocuments options documents).registry ∧
        LeavesIndex (ofDocuments options documents).registry ∧
          HasOwnExports (ofDocuments options documents).registry) ∧
    ((∀ name ∈ declaredNames options.naming.homeNamespace documents, '/' ∉ name.toList) →
      HasOwnStems (ofDocuments options documents).registry) := by
  have htypes : (ofDocuments options documents).interface.types = (Interface.ofRegistry
      (ofDocuments options documents).registry options.methods.readMethod).types := rfl
  refine ⟨⟨fun hkeeps => ?_, fun hown => ?_⟩, ?_⟩
  · exact keepsArtifacts_ofRegistry_iff.mp (hkeeps.of_types_eq htypes)
  · exact (keepsArtifacts_ofRegistry_iff.mpr hown).of_types_eq htypes.symm
  · intro hslash
    apply hasOwnStems_of_not_mem (nodup_names_allTypes options documents)
    intro type hmem
    exact hslash type.name (name_mem_declaredNames hmem)

theorem keepsArtifacts_userDocuments :
    KeepsArtifacts (ofDocuments .default userDocuments).interface Options.default.client := by
  have hslash : ∀ name ∈ declaredNames "polycom" userDocuments, '/' ∉ name.toList := by
    decide +kernel
  obtain ⟨hkeeps, hstems⟩ :=
    ofDocuments_keepsArtifacts_iff .default userDocuments Options.default.client
  have hindex : LeavesIndex (ofDocuments .default userDocuments).registry := by
    decide +kernel
  have hexports : HasOwnExports (ofDocuments .default userDocuments).registry := by
    decide +kernel
  exact hkeeps.mpr ⟨hstems hslash, hindex, hexports⟩

/-- Two rooms whose names have the same identifier. -/
def roomsDocuments : List SourceDocument := [
  ⟨"wadl/room.xsd", "room", "", .schema, schemaOf [
    ("plcm-room", none, [("size", "xs:int")]),
    ("plcmRoom", none, [("floor", "xs:int")])]⟩]

/-- The second export replaces the first one. -/
theorem not_keepsArtifacts_roomsDocuments :
    ¬ KeepsArtifacts (ofDocuments .default roomsDocuments).interface Options.default.client := by
  intro hkeeps
  have hexports := hkeeps.exports
  revert hexports
  decide +kernel

/-! ## Nothing outside -/

theorem isInside_paths_iff {client : ClientOptions}
    (hdirectories : ∀ document ∈ ofKind .schema documents, Path.IsInside document.sourceDir) :
    (∀ file ∈ serverFiles (ofDocuments options documents).interface ++
        clientFiles (ofDocuments options documents).interface client,
      Path.IsInside file.path) ↔
    ∀ type ∈ moduleTypes (ofDocuments options documents).registry ++
        clientTypes (ofDocuments options documents).registry,
      Path.StaysInside type.sourceDir type.name := by
  have hinside : ∀ type ∈ (ofDocuments options documents).registry.allTypes,
      Path.IsInside type.sourceDir := by
    intro type hmem
    obtain ⟨document, hdocument, hsource⟩ := exists_sourceDir_eq hmem
    rw [hsource]
    exact hdirectories document hdocument
  rw [List.forall_mem_append, List.forall_mem_append]
  apply and_congr
  · exact isInside_paths_serverFiles_iff hinside
  · exact isInside_paths_clientFiles_iff hinside

/-- The output stays inside if the names of all types with files do, and in no other case; names
without slashes always do.  Writing output that stays inside changes no file outside the output
directory. -/
theorem ofDocuments_stays_inside (options : Options) (documents : List SourceDocument)
    (client : ClientOptions)
    (hdirectories : ∀ document ∈ ofKind .schema documents, Path.IsInside document.sourceDir) :
    ((∀ file ∈ serverFiles (ofDocuments options documents).interface ++
          clientFiles (ofDocuments options documents).interface client,
        Path.IsInside file.path) ↔
      ∀ type ∈ moduleTypes (ofDocuments options documents).registry ++
          clientTypes (ofDocuments options documents).registry,
        Path.StaysInside type.sourceDir type.name) ∧
    ((∀ name ∈ declaredNames options.naming.homeNamespace documents, '/' ∉ name.toList) →
      ∀ file ∈ serverFiles (ofDocuments options documents).interface ++
          clientFiles (ofDocuments options documents).interface client,
        Path.IsInside file.path) ∧
    ∀ files ∈ [serverFiles (ofDocuments options documents).interface,
        clientFiles (ofDocuments options documents).interface client],
      (∀ file ∈ files, Path.IsInside file.path) → ∀ target session,
        Action.KeepsOutside (Path.locate [] target) (Action.writeOutput target files) session := by
  refine ⟨isInside_paths_iff hdirectories, ?_, ?_⟩
  · intro hslash
    apply (isInside_paths_iff hdirectories).mpr
    intro type hmem
    have hknown : type ∈ (ofDocuments options documents).registry.allTypes := by
      rcases List.mem_append.mp hmem with hmodule | hclient
      · exact mem_allTypes_of_mem_moduleTypes hmodule
      · exact mem_allTypes_of_mem_clientTypes hclient
    exact Path.staysInside_of_not_mem (hslash type.name (name_mem_declaredNames hknown))
      type.sourceDir
  · intro files _ hinside target
    exact Action.keepsOutside_writeOutput target hinside

theorem isInside_userDocuments :
    (∀ file ∈ serverFiles (ofDocuments .default userDocuments).interface ++
        clientFiles (ofDocuments .default userDocuments).interface Options.default.client,
      Path.IsInside file.path) ∧
    Action.KeepsOutside ["generated", "server"]
      (Action.writeOutput "generated/server"
        (serverFiles (ofDocuments .default userDocuments).interface))
      ⟨.empty, none, [], ""⟩ := by
  have hdirectories : ∀ document ∈ ofKind .schema userDocuments,
      Path.IsInside document.sourceDir := by decide +kernel
  have hslash : ∀ name ∈ declaredNames "polycom" userDocuments, '/' ∉ name.toList := by
    decide +kernel
  obtain ⟨-, hinside, hkeeps⟩ :=
    ofDocuments_stays_inside .default userDocuments Options.default.client hdirectories
  refine ⟨hinside hslash, hkeeps _ List.mem_cons_self ?_ "generated/server" _⟩
  intro file hfile
  exact hinside hslash file (List.mem_append_left _ hfile)

/-- The name of a type goes up. -/
def upwardDocuments : List SourceDocument := [
  ⟨"wadl/room.xsd", "room", "", .schema, schemaOf [
    ("../plcm-room", none, [("size", "xs:int")])]⟩]

/-- The module of the type is written beside the output directory. -/
theorem not_isInside_upwardDocuments :
    (∀ document ∈ ofKind .schema upwardDocuments, Path.IsInside document.sourceDir) ∧
    (∃ file ∈ serverFiles (ofDocuments .default upwardDocuments).interface,
      ¬ Path.IsInside file.path) ∧
    ¬ Action.KeepsOutside ["generated"] (Action.writeOutput "generated"
      (serverFiles (ofDocuments .default upwardDocuments).interface))
      ⟨.empty, none, [], ""⟩ := by
  refine ⟨by decide +kernel, by decide +kernel, ?_⟩
  intro hkeeps
  have hwritten : (((Action.writeOutput "generated" (serverFiles
      (ofDocuments .default upwardDocuments).interface)).run.run
        ⟨.empty, none, [], ""⟩).2.tree.read ["plcm-room.js"]).isOk = true := by
    decide +kernel
  obtain ⟨content, hfile⟩ := FileTree.exists_file_of_isOk_read hwritten
  have houtside : ¬ ["generated"] <+: ["plcm-room.js"] := by decide
  have hbefore := (hkeeps ["plcm-room.js"] houtside content).mp hfile
  exact absurd hbefore (by simp [FileTree.get?, FileTree.empty])

end RestModel.Compilation

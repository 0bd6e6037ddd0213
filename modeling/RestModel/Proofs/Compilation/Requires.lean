import RestModel.Proofs.Compilation.Closure
import RestModel.Proofs.JavaScript.Requires

/-!
# What the modules of a compilation load

The directories of documents are written without `.` and `..`, and the names of types can be names
of files.  The modules of a compilation then load modules of the compilation only, unless a
constructor loads a base without members or a list type that an enumeration has taken.
-/

namespace RestModel.Compilation

open JavaScript

variable {options : Options} {documents : List SourceDocument}

theorem name_mem_declaredNames {type : TypeDef}
    (hmem : type ∈ (ofDocuments options documents).registry.allTypes) :
    type.name ∈ declaredNames options.naming.homeNamespace documents := by
  obtain ⟨registered, hregistered, hcompiled⟩ := exists_registered_of_mem_allTypes hmem
  rw [hcompiled.name, ← mem_names_register]
  exact Registry.name_mem_names hregistered

/-- A type lies in the directory of the schema that declared it. -/
theorem exists_sourceDir_eq {type : TypeDef}
    (hmem : type ∈ (ofDocuments options documents).registry.allTypes) :
    ∃ document ∈ ofKind .schema documents, type.sourceDir = document.sourceDir := by
  obtain ⟨registered, hregistered, hcompiled⟩ := exists_registered_of_mem_allTypes hmem
  obtain ⟨document, hdocument, hsource⟩ := (isFrom_register hregistered).directory
  exact ⟨document, hdocument, hcompiled.sourceDir.trans hsource⟩

theorem isWritable_ofDocuments
    (hplain : ∀ document ∈ ofKind .schema documents, Path.IsPlain document.sourceDir)
    (hfileName : ∀ name ∈ declaredNames options.naming.homeNamespace documents,
      Path.IsFileName name) :
    IsWritable (ofDocuments options documents).registry := by
  constructor
  · exact nodup_names_allTypes options documents
  · intro type hmem
    obtain ⟨document, hdocument, hsource⟩ := exists_sourceDir_eq hmem
    rw [hsource]
    exact hplain document hdocument
  · intro type hmem
    exact hfileName type.name (name_mem_declaredNames hmem)
  · intro type hmem henumeration
    obtain ⟨registered, hregistered, hcompiled⟩ := exists_registered_of_mem_allTypes hmem
    rw [hcompiled.isEnumeration] at henumeration
    rw [hcompiled.isEmpty_members]
    exact ((isFrom_register hregistered).declared.enumeration henumeration).2

/-- A compilation is closed under what its modules load if each loaded type has members and was not
taken by an enumeration, and in no other case. -/
theorem ofDocuments_isClosedUnderRequire (options : Options) (documents : List SourceDocument)
    (hplain : ∀ document ∈ ofKind .schema documents, Path.IsPlain document.sourceDir)
    (hfileName : ∀ name ∈ declaredNames options.naming.homeNamespace documents,
      Path.IsFileName name) :
    (LoadsModulesOnly (ofDocuments options documents).registry →
      IsClosedUnderRequire (ofDocuments options documents).interface) ∧
    ("index" ∉ declaredNames options.naming.homeNamespace documents →
      IsClosedUnderRequire (ofDocuments options documents).interface →
      LoadsModulesOnly (ofDocuments options documents).registry) := by
  have hwritable := isWritable_ofDocuments hplain hfileName
  refine ⟨isClosedUnderRequire_of_loadsModulesOnly hwritable, ?_⟩
  intro hindex
  apply loadsModulesOnly_of_isClosedUnderRequire hwritable
  intro type hmem hname
  exact hindex (hname ▸ name_mem_declaredNames hmem)

theorem isClosedUnderRequire_userDocuments :
    (constructorTypes (ofDocuments .default userDocuments).registry).flatMap (fun type =>
        (loadedTypes (ofDocuments .default userDocuments).registry type).map TypeDef.name) =
      ["plcm-item", "plcm-role"] ∧
    IsClosedUnderRequire (ofDocuments .default userDocuments).interface := by
  have hplain : ∀ document ∈ ofKind .schema userDocuments,
      Path.IsPlain document.sourceDir := by decide +kernel
  have hfileName : ∀ name ∈ declaredNames "polycom" userDocuments, Path.IsFileName name := by
    decide +kernel
  have hmodules : LoadsModulesOnly (ofDocuments .default userDocuments).registry := by
    decide +kernel
  refine ⟨by decide +kernel, ?_⟩
  exact (ofDocuments_isClosedUnderRequire .default userDocuments hplain hfileName).1 hmodules

/-- A room extends a marker, which has no members. -/
def roomDocuments : List SourceDocument := [
  ⟨"wadl/room.xsd", "room", "", .schema, schemaOf [
    ("plcm-marker", none, []),
    ("plcm-room", some "plcm-marker", [("size", "xs:int")])]⟩]

/-- The constructor of the room loads the marker, for which there is no module. -/
theorem not_isClosedUnderRequire_roomDocuments :
    ¬ IsClosedUnderRequire (ofDocuments .default roomDocuments).interface := by
  intro hclosed
  have hwritable : IsWritable (ofDocuments .default roomDocuments).registry :=
    isWritable_ofDocuments (by decide +kernel) (by decide +kernel)
  have hindex : ∀ type ∈ (ofDocuments .default roomDocuments).registry.allTypes,
      type.name ≠ "index" := by decide +kernel
  have hloads := loadsModulesOnly_of_isClosedUnderRequire hwritable hindex hclosed
  revert hloads
  decide +kernel

end RestModel.Compilation

import RestModel.Proofs.Compilation.Stages
import Mathlib.Data.List.Dedup

/-!
# Compilation loses no type

Every declared name belongs to one type of the result, either registered or folded, and every
resolved reference of such a type leads to the type it names.
-/

namespace RestModel.Compilation

theorem perm_names_ofDocuments (options : Options) (documents : List SourceDocument) :
    ((ofDocuments options documents).registry.names ++
        (ofDocuments options documents).registry.folded.map TypeDef.name).Perm
      (declaredNames options.naming.homeNamespace documents).dedup := by
  have hresolved : (resolved options documents).names.Perm
      (declaredNames options.naming.homeNamespace documents).dedup := by
    rw [List.perm_ext_iff_of_nodup Registry.nodup_names (List.nodup_dedup _)]
    intro name
    rw [List.mem_dedup]
    exact mem_names_resolved
  rw [registry_ofDocuments, ← Registry.names_allTypes]
  exact (Registry.names_allTypes_foldLists isUnfolded_resolved).trans hresolved

/-- The registered types and the folded list types of a compilation have the declared names, each
once; all of them are found by their names, and so is every type that one of them refers to. -/
theorem ofDocuments_keeps_names_and_references (options : Options)
    (documents : List SourceDocument) :
    ((ofDocuments options documents).registry.names ++
        (ofDocuments options documents).registry.folded.map TypeDef.name).Perm
      (declaredNames options.naming.homeNamespace documents).dedup ∧
    (ofDocuments options documents).stats.types +
        (ofDocuments options documents).stats.collections =
      (declaredNames options.naming.homeNamespace documents).dedup.length ∧
    (∀ name ∈ declaredNames options.naming.homeNamespace documents, ∃ type,
      (ofDocuments options documents).registry.lookup name = some type ∧ type.name = name) ∧
    (∀ type ∈ (ofDocuments options documents).registry.types ++
        (ofDocuments options documents).registry.folded,
      ∀ ref ∈ type.references, ∀ id, ref.id? = some id → ∃ target,
        (ofDocuments options documents).registry.lookup id = some target ∧ target.name = id) := by
  have hnames := perm_names_ofDocuments options documents
  refine ⟨hnames, ?_, ?_, ?_⟩
  · have hlength := hnames.length_eq
    rw [List.length_append, List.length_map, Registry.names, List.length_map] at hlength
    exact hlength
  · intro name hname
    apply Registry.exists_lookup_eq_some
    rw [Registry.names_allTypes, hnames.mem_iff, List.mem_dedup]
    exact hname
  · exact Registry.isClosed_foldLists isUnfolded_resolved isClosed_resolved

/-- A schema of complex types, each given by its name, its base and its members with their types. -/
def schemaOf (types : List (String × Option String × List (String × String))) : Xml.Element where
  name := "xs:schema"
  attributes := [("targetNamespace", "urn:polycom:example")]
  children := ⟨"xs:element", [("name", "plcm-example")], [], ""⟩ ::
    types.map (fun (name, base, members) =>
      let sequence : Xml.Element := ⟨"xs:sequence", [], members.map (fun (member, type) =>
        ⟨"xs:element", [("name", member), ("type", type)], [], ""⟩), ""⟩
      let content : Xml.Element := match base with
        | some target => ⟨"xs:complexContent", [],
            [⟨"xs:extension", [("base", target)], [sequence], ""⟩], ""⟩
        | none => sequence
      ⟨"xs:complexType", [("name", name)], [content], ""⟩)
  text := ""

/-- A user is an item and has a role, which another schema declares in another directory. -/
def userDocuments : List SourceDocument := [
  ⟨"wadl/users/user.xsd", "user", "users", .schema, schemaOf [
    ("plcm-item", none, [("id", "xs:int")]),
    ("plcm-user", some "plcm-item", [("role", "role:plcm-role")])]⟩,
  ⟨"wadl/roles/role.xsd", "role", "roles", .schema, schemaOf [
    ("plcm-role", none, [("title", "xs:string")])]⟩]

theorem lookup_user_documents :
    "plcm-user" ∈ declaredNames "polycom" userDocuments ∧ ∃ type,
      (ofDocuments .default userDocuments).registry.lookup "plcm-user" = some type ∧
        type.name = "plcm-user" := by
  have hdeclared : "plcm-user" ∈ declaredNames "polycom" userDocuments := by decide +kernel
  have hlookup := (ofDocuments_keeps_names_and_references .default userDocuments).2.2.1
  exact ⟨hdeclared, hlookup "plcm-user" hdeclared⟩

end RestModel.Compilation

import RestModel.Proofs.Compilation.Closure
import RestModel.Proofs.Compilation.Reordering
import RestModel.Proofs.Schema.Emission

/-!
# A schema refers to its own types

In the types of a schema that are still registered when references are looked up, a reference to a
complex type of the same schema leads to the name under which that type was registered.  A type of
the same local name in another schema does not get in the way.
-/

namespace RestModel.Compilation

open Schema

variable {options : Options} {home : String} {documents : List SourceDocument}
  {document : SourceDocument}

theorem contains_annotated_of_mem_emittedTypes {target : EmittedType}
    (hdocument : document ∈ ofKind .schema documents)
    (htarget : target ∈
      emittedTypes document.root document.name options.naming.homeNamespace) :
    (annotated options documents).contains target.type.name = true := by
  rw [Registry.contains_eq_true_iff, mem_names_annotated, declaredNames, List.mem_flatMap]
  exact ⟨document, hdocument, List.mem_map_of_mem (type_mem_types_of_mem_emittedTypes htarget)⟩

/-- Where no two types have the same name, every complex type of a schema is still registered. -/
theorem mem_register_of_mem_emittedTypes {owner : EmittedType}
    (hnames : (declaredNames home documents).Nodup)
    (hdocument : document ∈ ofKind .schema documents)
    (howner : owner ∈ emittedTypes document.root document.name home) :
    { owner.type with sourceDir := document.sourceDir } ∈ (register home documents).types := by
  rw [types_register hnames, List.mem_flatMap]
  exact ⟨document, hdocument, List.mem_map_of_mem (type_mem_types_of_mem_emittedTypes howner)⟩

/-- In a type of a schema that is still registered when references are looked up, every member whose
kept declaration names a complex type of the same schema, and every base that does so, leads to the
name that this complex type was registered under.  No simple type of the schema may have the name,
and no top-level element a colon in its own. -/
theorem resolved_leads_to_own_types (options : Options) {documents : List SourceDocument}
    {document : SourceDocument} (hdocument : document ∈ ofKind .schema documents)
    (hplain : HasPlainElements document.root) {owner target : EmittedType}
    (howner : owner ∈
      emittedTypes document.root document.name options.naming.homeNamespace)
    (htarget : target ∈
      emittedTypes document.root document.name options.naming.homeNamespace)
    (hsimple : target.name ∉ topLevelNames document.root "simpleType")
    (hregistered : { owner.type with sourceDir := document.sourceDir } ∈
      (register options.naming.homeNamespace documents).types) :
    ∃ type, (resolved options documents).get? owner.type.name = some type ∧
      (∀ member node text, keptNode? owner.complex member = some node →
        node.writtenType? = some text → RefersTo text target.name →
        (type.members.get? member).bind TypeRef.id? = some target.type.name) ∧
      (∀ text, (extension? owner.complex).bind (·.attribute? "base") = some text →
        RefersTo text target.name → type.baseRef?.bind TypeRef.id? = some target.type.name) := by
  obtain ⟨rootElement, hroot⟩ := exists_child?_of_mem_emittedTypes htarget
  obtain ⟨paths, hwalked⟩ := exists_paths_mem_annotated hregistered
  have hleads : ∀ text, RefersTo text target.name → ((TypeRef.unresolved
      ((Substitution.ofSchema document.root rootElement).apply text)).resolve
        (annotated options documents).contains
        (namePrefix document.root document.name options.naming.homeNamespace)).id? =
          some target.type.name := by
    intro text hrefers
    exact id?_resolve_apply hroot hplain htarget hsimple hrefers
      (contains_annotated_of_mem_emittedTypes hdocument htarget)
  rw [emittedTypes_eq_map hroot, List.mem_map] at howner
  obtain ⟨entry, -, rfl⟩ := howner
  refine ⟨_, Registry.get?_eq_some_iff.mpr ⟨Registry.mem_types_resolve.mpr ⟨_, hwalked, rfl⟩, rfl⟩,
    ?_, ?_⟩
  · intro member node text hkept htext hrefers
    rw [TypeDef.resolve, OrderedMap.get?_mapValues, emittedType,
      get?_members_complexType hkept htext, namePrefix_complexType]
    exact hleads text hrefers
  · intro text htext hrefers
    rw [TypeDef.baseRef?, TypeDef.resolve, emittedType, base_complexType, complexBase?,
      htext, namePrefix_complexType]
    exact hleads text hrefers

/-- The top-level element for links. -/
def linkElement : Xml.Element :=
  ⟨"xs:element", [("name", "link"), ("type", "linkType")], [], ""⟩

/-- The complex type of a link. -/
def linkType : Xml.Element :=
  ⟨"xs:complexType", [("name", "linkType")], [⟨"xs:attribute", [("name", "href")], [], ""⟩], ""⟩

/-- The complex type of an entry, which extends that of a link and has a link as a member. -/
def entryType : Xml.Element :=
  ⟨"xs:complexType", [("name", "entry")],
    [⟨"xs:complexContent", [], [⟨"xs:extension", [("base", "atom:linkType")],
      [⟨"xs:sequence", [],
        [⟨"xs:element", [("name", "link"), ("type", "atom:linkType")], [], ""⟩], ""⟩],
      ""⟩], ""⟩], ""⟩

/-- A schema of a foreign namespace. -/
def atomSchema : Xml.Element :=
  ⟨"xs:schema", [("targetNamespace", "http://www.w3.org/2005/Atom")],
    [linkElement, linkType, entryType], ""⟩

/-- Two schemas that declare a link each, the first one in the home namespace. -/
def linkDocuments : List SourceDocument := [
  ⟨"wadl/link.xsd", "link", "", .schema, schemaOf [("link", none, [("href", "xs:string")])]⟩,
  ⟨"wadl/atom.xsd", "atom", "", .schema, atomSchema⟩]

/-- The entry refers to the link of its own schema. -/
theorem resolved_entry_leads_to_atom_link : "link" ∈ declaredNames "polycom" linkDocuments ∧
    ∃ type, (resolved .default linkDocuments).get? "atom-entry" = some type ∧
      (type.members.get? "link").bind TypeRef.id? = some "atom-link" ∧
      type.baseRef?.bind TypeRef.id? = some "atom-link" := by
  have hdocument : ⟨"wadl/atom.xsd", "atom", "", .schema, atomSchema⟩ ∈
      ofKind .schema linkDocuments := List.mem_cons_of_mem _ List.mem_cons_self
  have hnames : (declaredNames "polycom" linkDocuments).Nodup := by decide +kernel
  have hroot : atomSchema.child? "element" = some linkElement := rfl
  have hcomplex : complexTypesOf atomSchema =
      [("linkType", linkType), ("entry", entryType)] := rfl
  have htarget : ⟨"linkType", linkType, _⟩ ∈ emittedTypes atomSchema "atom" "polycom" :=
    mem_emittedTypes_of_mem_complexTypesOf hroot (by simp [hcomplex])
  have howner : ⟨"entry", entryType, _⟩ ∈ emittedTypes atomSchema "atom" "polycom" :=
    mem_emittedTypes_of_mem_complexTypesOf hroot (by simp [hcomplex])
  have hregistered := mem_register_of_mem_emittedTypes hnames hdocument howner
  obtain ⟨type, hfound, hmember, hbase⟩ := resolved_leads_to_own_types .default hdocument
    (by decide +kernel) howner htarget (by decide +kernel) hregistered
  refine ⟨by decide +kernel, type, hfound, ?_, ?_⟩
  · exact hmember "link" _ "atom:linkType" rfl rfl (by decide +kernel)
  · exact hbase "atom:linkType" rfl (by decide +kernel)

end RestModel.Compilation

import RestModel.Compilation
import RestModel.Proofs.Registry.Resolution
import RestModel.Proofs.Resource.Annotation

/-!
# The stages of a compilation

What the registry holds after each stage.  Registering gives it the types of the schemas, one for
each declared name.  Declaring methods changes paths only, and looking up references changes
references only.  Before list types are folded, the registry has no collections and its references
lead to registered types.
-/

namespace RestModel.Compilation

variable {options : Options} {home : String} {documents : List SourceDocument}

/-- The names of the types that the schemas among some documents declare, in order and with
repetitions. -/
def declaredNames (home : String) (documents : List SourceDocument) : List String :=
  (ofKind .schema documents).flatMap (fun document =>
    (Schema.types document.root document.name home).map TypeDef.name)

/-! ## Registered types -/

theorem names_documentTypes (document : SourceDocument) :
    (documentTypes home document).map TypeDef.name =
      (Schema.types document.root document.name home).map TypeDef.name := by
  rw [documentTypes, List.map_map]
  rfl

theorem mem_names_foldl_insertAll {schemas : List SourceDocument} {registry : Registry}
    {name : String} :
    name ∈ (schemas.foldl (fun registry document =>
        registry.insertAll (documentTypes home document)) registry).names ↔
      name ∈ schemas.flatMap (fun document => (documentTypes home document).map TypeDef.name) ∨
        name ∈ registry.names := by
  induction schemas generalizing registry with
  | nil => simp
  | cons document rest ih =>
      rw [List.foldl_cons, ih, Registry.mem_names_insertAll, List.flatMap_cons, List.mem_append]
      tauto

theorem mem_types_foldl_insertAll {schemas : List SourceDocument} {registry : Registry}
    {type : TypeDef} (hmem : type ∈ (schemas.foldl (fun registry document =>
        registry.insertAll (documentTypes home document)) registry).types) :
    (∃ document ∈ schemas, type ∈ documentTypes home document) ∨ type ∈ registry.types := by
  induction schemas generalizing registry with
  | nil => exact Or.inr hmem
  | cons document rest ih =>
      rcases ih hmem with ⟨other, hother, htype⟩ | hinserted
      · exact Or.inl ⟨other, List.mem_cons_of_mem document hother, htype⟩
      · rcases Registry.mem_types_insertAll hinserted with hnew | hold
        · exact Or.inl ⟨document, List.mem_cons_self, hnew⟩
        · exact Or.inr hold

theorem mem_names_register {name : String} :
    name ∈ (register home documents).names ↔ name ∈ declaredNames home documents := by
  rw [register, mem_names_foldl_insertAll, declaredNames]
  simp only [names_documentTypes]
  constructor
  · rintro (hmem | hnone)
    · exact hmem
    · exact absurd hnone List.not_mem_nil
  · exact Or.inl

/-- A registered type was declared by a schema and lies in the directory of that schema. -/
structure IsFrom (home : String) (documents : List SourceDocument) (type : TypeDef) : Prop where
  declared : type.IsDeclared
  directory : ∃ document ∈ ofKind .schema documents, type.sourceDir = document.sourceDir

theorem exists_declared_of_mem_register {type : TypeDef}
    (hmem : type ∈ (register home documents).types) :
    ∃ document ∈ ofKind .schema documents,
      ∃ declared ∈ Schema.types document.root document.name home,
        { declared with sourceDir := document.sourceDir } = type := by
  rcases mem_types_foldl_insertAll hmem with ⟨document, hdocument, htype⟩ | hnone
  · exact ⟨document, hdocument, List.mem_map.mp htype⟩
  · exact absurd hnone List.not_mem_nil

theorem isFrom_register {type : TypeDef} (hmem : type ∈ (register home documents).types) :
    IsFrom home documents type := by
  obtain ⟨document, hdocument, declared, hdeclared, rfl⟩ := exists_declared_of_mem_register hmem
  have hfacts := Schema.isDeclared_of_mem_types hdeclared
  exact ⟨⟨hfacts.unresolved, hfacts.unfolded, hfacts.enumeration⟩, document, hdocument, rfl⟩

/-! ## Declared methods -/

theorem withoutPaths_foldl_annotateDocument {statuses : List String}
    {resources : List SourceDocument} {before : Annotated} :
    (resources.foldl (annotateDocument statuses) before).registry.types.map TypeDef.withoutPaths =
      before.registry.types.map TypeDef.withoutPaths := by
  induction resources generalizing before with
  | nil => rfl
  | cons document rest ih =>
      rw [List.foldl_cons, ih]
      exact Resource.withoutPaths_collect before.registry statuses document.root

theorem withoutPaths_annotate (statuses : List String) (documents : List SourceDocument)
    (registry : Registry) :
    (annotate statuses documents registry).registry.types.map TypeDef.withoutPaths =
      registry.types.map TypeDef.withoutPaths :=
  withoutPaths_foldl_annotateDocument

/-- The registry with the methods of all resource descriptions. -/
def annotated (options : Options) (documents : List SourceDocument) : Registry :=
  (annotate options.methods.successStatuses documents
    (register options.naming.homeNamespace documents)).registry

theorem mem_names_annotated {name : String} : name ∈ (annotated options documents).names ↔
    name ∈ declaredNames options.naming.homeNamespace documents := by
  have hnames := congrArg (List.map TypeDef.name)
    (withoutPaths_annotate options.methods.successStatuses documents
      (register options.naming.homeNamespace documents))
  rw [List.map_map, List.map_map] at hnames
  rw [← mem_names_register]
  exact iff_of_eq (congrArg (name ∈ ·) hnames)

/-- Declaring methods gives paths to a registered type and leaves it as it is otherwise. -/
theorem exists_paths_mem_annotated {type : TypeDef}
    (hmem : type ∈ (register options.naming.homeNamespace documents).types) :
    ∃ paths, { type with paths := paths } ∈ (annotated options documents).types := by
  have hwithout : type.withoutPaths ∈
      (annotated options documents).types.map TypeDef.withoutPaths := by
    rw [annotated, withoutPaths_annotate]
    exact List.mem_map_of_mem hmem
  obtain ⟨walked, hwalked, hsame⟩ := List.mem_map.mp hwithout
  rw [TypeDef.eq_of_withoutPaths_eq hsame] at hwalked
  exact ⟨walked.paths, hwalked⟩

/-- Declaring methods has changed the paths of the registered types only. -/
theorem exists_registered_of_mem_annotated {type : TypeDef}
    (hmem : type ∈ (annotated options documents).types) :
    ∃ registered ∈ (register options.naming.homeNamespace documents).types,
      type = { registered with paths := type.paths } := by
  have hwithout : type.withoutPaths ∈
      (register options.naming.homeNamespace documents).types.map TypeDef.withoutPaths := by
    rw [← withoutPaths_annotate options.methods.successStatuses documents]
    exact List.mem_map_of_mem hmem
  obtain ⟨registered, hregistered, hsame⟩ := List.mem_map.mp hwithout
  exact ⟨registered, hregistered, TypeDef.eq_of_withoutPaths_eq hsame.symm⟩

theorem isFrom_annotated {type : TypeDef} (hmem : type ∈ (annotated options documents).types) :
    IsFrom options.naming.homeNamespace documents type := by
  obtain ⟨registered, hregistered, hsame⟩ := exists_registered_of_mem_annotated hmem
  obtain ⟨⟨hunresolved, hunfolded, hshape⟩, hdirectory⟩ := isFrom_register hregistered
  rw [hsame]
  exact ⟨⟨hunresolved, hunfolded, hshape⟩, hdirectory⟩

/-! ## Resolved references -/

/-- The registry before list types are folded. -/
def resolved (options : Options) (documents : List SourceDocument) : Registry :=
  (annotated options documents).resolve

theorem registry_ofDocuments : (ofDocuments options documents).registry =
    (resolved options documents).foldLists options.naming.listSuffix
      options.methods.readMethod := rfl

theorem mem_names_resolved {name : String} : name ∈ (resolved options documents).names ↔
    name ∈ declaredNames options.naming.homeNamespace documents := by
  rw [resolved, Registry.names_resolve, mem_names_annotated]

theorem isUnfolded_annotated : (annotated options documents).IsUnfolded := by
  intro type hmem
  exact (isFrom_annotated hmem).declared.unfolded

theorem isUnfolded_resolved : (resolved options documents).IsUnfolded :=
  Registry.isUnfolded_resolve isUnfolded_annotated

theorem isClosed_resolved : (resolved options documents).IsClosed := by
  apply Registry.isClosed_resolve isUnfolded_annotated
  intro type hmem
  exact (isFrom_annotated hmem).declared.unresolved

/-! ## Types of the result -/

/-- A type of the result is what has become of a registered one.  Its references have been looked up,
and its paths and its collection may have changed. -/
structure IsCompiledFrom (known : String → Bool) (registered type : TypeDef) : Prop where
  name : type.name = registered.name
  sourceDir : type.sourceDir = registered.sourceDir
  isEnumeration : type.isEnumeration = registered.isEnumeration
  members : type.members = registered.members.mapValues (·.resolve known registered.namePrefix)
  baseRef? : type.baseRef? = registered.baseRef?.map (·.resolve known registered.namePrefix)

theorem isCompiledFrom_of_resolve_eq {known : String → Bool} {registered type : TypeDef}
    {paths : OrderedMap String (List String)}
    (hsame : ({ registered with paths := paths } : TypeDef).resolve known = type.unfolded) :
    IsCompiledFrom known registered type where
  name := (congrArg TypeDef.name hsame).symm
  sourceDir := (congrArg TypeDef.sourceDir hsame).symm
  isEnumeration := (congrArg TypeDef.isEnumeration hsame).symm
  members := (congrArg TypeDef.members hsame).symm
  baseRef? := by
    have hbase := congrArg TypeDef.baseRef? hsame
    rw [TypeDef.baseRef?_resolve] at hbase
    exact hbase.symm

theorem IsCompiledFrom.isEmpty_members {known : String → Bool} {registered type : TypeDef}
    (hcompiled : IsCompiledFrom known registered type) :
    type.members.isEmpty = registered.members.isEmpty := by
  rw [hcompiled.members, OrderedMap.isEmpty_mapValues]

theorem exists_registered_of_mem_allTypes {type : TypeDef}
    (hmem : type ∈ (ofDocuments options documents).registry.allTypes) :
    ∃ registered ∈ (register options.naming.homeNamespace documents).types,
      IsCompiledFrom (annotated options documents).contains registered type := by
  have hresolved : type.unfolded ∈ (resolved options documents).types :=
    Registry.unfolded_mem_of_mem_allTypes isUnfolded_resolved hmem
  obtain ⟨walked, hwalked, hsame⟩ := Registry.mem_types_resolve.mp hresolved
  obtain ⟨registered, hregistered, hpaths⟩ := exists_registered_of_mem_annotated hwalked
  rw [hpaths] at hsame
  exact ⟨registered, hregistered, isCompiledFrom_of_resolve_eq hsame⟩

/-- A type of the result has become of the registered type of its name. -/
theorem isCompiledFrom_of_name_eq {registered type : TypeDef}
    (hmem : type ∈ (ofDocuments options documents).registry.allTypes)
    (hregistered : registered ∈ (register options.naming.homeNamespace documents).types)
    (hname : type.name = registered.name) :
    IsCompiledFrom (annotated options documents).contains registered type := by
  obtain ⟨other, hother, hcompiled⟩ := exists_registered_of_mem_allTypes hmem
  have hsame : other = registered :=
    Registry.eq_of_name_eq hother hregistered (hcompiled.name.symm.trans hname)
  exact hsame ▸ hcompiled

theorem nodup_names_allTypes (options : Options) (documents : List SourceDocument) :
    ((ofDocuments options documents).registry.allTypes.map TypeDef.name).Nodup := by
  rw [registry_ofDocuments]
  exact (Registry.names_allTypes_foldLists isUnfolded_resolved).symm.nodup Registry.nodup_names

end RestModel.Compilation

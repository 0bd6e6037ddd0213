import RestModel.Proofs.Compilation.Closure
import RestModel.Proofs.Descriptor.OfRegistry
import RestModel.Proofs.Registry.Reordering

/-!
# Reading schemas in another order

As long as no two schemas declare a type of the same name and no two list types are lists of the
same type, the order in which the schemas are read decides on nothing but the order of the types.
Each stage of a compilation turns registries that hold the same types into registries that do so
again.  The resource descriptions keep their order, since it is the order of the reports.
-/

namespace RestModel

/-! ## Walking resource descriptions -/

namespace Resource

/-- Two walks have made the same report, and their registries hold the same types. -/
structure Progress.Matches (left right : Progress) : Prop where
  registry : left.registry.SameTypes right.registry
  report : left.report = right.report

variable {left right : Progress}

theorem Progress.Matches.follow (hmatches : left.Matches right) (step : Step) :
    (left.follow step).Matches (right.follow step) := by
  cases step with
  | unnamedMethod path => exact hmatches
  | reference path method element =>
      rw [Progress.follow, Progress.follow, Progress.annotate, Progress.annotate,
        hmatches.registry.contains_eq, hmatches.report]
      split
      · exact ⟨hmatches.registry.addMethod _ method path, rfl⟩
      · exact ⟨hmatches.registry, rfl⟩

theorem Progress.Matches.foldl_follow (hmatches : left.Matches right) (steps : List Step) :
    (steps.foldl Progress.follow left).Matches (steps.foldl Progress.follow right) := by
  induction steps generalizing left right with
  | nil => exact hmatches
  | cons step rest ih => exact ih (hmatches.follow step)

theorem matches_collect {left right : Registry} (hsame : left.SameTypes right)
    (statuses : List String) (application : Xml.Element) :
    (collect left statuses application).Matches (collect right statuses application) := by
  have hstart : Progress.Matches ⟨left, ⟨0, []⟩⟩ ⟨right, ⟨0, []⟩⟩ := ⟨hsame, rfl⟩
  rw [collect_eq_foldl, collect_eq_foldl]
  exact hstart.foldl_follow _

end Resource

/-! ## Describing types -/

section Description

variable {left right : Registry} {readMethod : String}

theorem Descriptor.ofType_agrees (hagrees : left.AgreesWith right) (type : TypeDef) :
    ofType left readMethod type = ofType right readMethod type := by
  have hlist : Record.ofListType left = Record.ofListType right := by
    funext list
    rw [Record.ofListType, Record.ofListType, Constructor.ofType?_agrees hagrees]
  rw [ofType, ofType, Record.ofType, Record.ofType, Constructor.ofType?_agrees hagrees, hlist]

theorem Registry.SameTypes.perm_types (hsame : left.SameTypes right)
    (hnodup : (left.allTypes.map TypeDef.name).Nodup) :
    (Interface.ofRegistry left readMethod).types.Perm
      (Interface.ofRegistry right readMethod).types := by
  have hagrees : left.AgreesWith right := by
    intro name
    rw [hsame.lookup_eq hnodup]
  have hdescribe : Descriptor.ofType left readMethod = Descriptor.ofType right readMethod :=
    funext (Descriptor.ofType_agrees hagrees)
  rw [Interface.ofRegistry, Interface.ofRegistry, hdescribe]
  exact List.Perm.map _ hsame

theorem Registry.SameTypes.perm_diagnostics (hsame : left.SameTypes right) :
    (Interface.ofRegistry left readMethod).diagnostics.Perm
      (Interface.ofRegistry right readMethod).diagnostics :=
  List.Perm.flatMap_right _ hsame

end Description

namespace Compilation

variable {options : Options} {home : String} {documents others : List SourceDocument}

/-! ## Registering types -/

theorem types_foldl_insertAll {schemas : List SourceDocument} {registry : Registry}
    (hnodup : (registry.names ++
      schemas.flatMap (fun document => (documentTypes home document).map TypeDef.name)).Nodup) :
    (schemas.foldl (fun registry document =>
        registry.insertAll (documentTypes home document)) registry).types =
      registry.types ++ schemas.flatMap (documentTypes home) := by
  induction schemas generalizing registry with
  | nil => simp
  | cons document rest ih =>
      rw [List.flatMap_cons, ← List.append_assoc] at hnodup
      have htypes := Registry.types_insertAll_of_nodup hnodup.of_append_left
      have hnames : (registry.insertAll (documentTypes home document)).names =
          registry.names ++ (documentTypes home document).map TypeDef.name := by
        rw [Registry.names, htypes, List.map_append]
        rfl
      rw [List.foldl_cons, ih (by rw [hnames]; exact hnodup), htypes, List.flatMap_cons,
        List.append_assoc]

/-- Distinct names leave every declared type in the registry. -/
theorem types_register (hnames : (declaredNames home documents).Nodup) :
    (register home documents).types =
      (ofKind .schema documents).flatMap (documentTypes home) := by
  have hnodup : (Registry.empty.names ++ (ofKind .schema documents).flatMap
      (fun document => (documentTypes home document).map TypeDef.name)).Nodup := by
    simp only [names_documentTypes]
    exact hnames
  rw [register, types_foldl_insertAll hnodup]
  rfl

theorem ofKind_perm (kind : DocumentKind) (hperm : documents.Perm others) :
    (ofKind kind documents).Perm (ofKind kind others) :=
  hperm.filter _

theorem declaredNames_perm (hperm : documents.Perm others) :
    (declaredNames home documents).Perm (declaredNames home others) :=
  (ofKind_perm .schema hperm).flatMap_right _

theorem register_sameTypes (hperm : documents.Perm others)
    (hnames : (declaredNames home documents).Nodup) :
    (register home documents).SameTypes (register home others) := by
  rw [Registry.SameTypes, types_register hnames,
    types_register ((declaredNames_perm hperm).nodup hnames)]
  exact (ofKind_perm .schema hperm).flatMap_right _

/-! ## Declaring methods -/

/-- Two walks have counted and reported the same, and their registries hold the same types. -/
structure Annotated.Matches (left right : Annotated) : Prop where
  registry : left.registry.SameTypes right.registry
  annotations : left.annotations = right.annotations
  diagnostics : left.diagnostics = right.diagnostics

theorem Annotated.Matches.annotateDocument {left right : Annotated} (hmatches : left.Matches right)
    (statuses : List String) (document : SourceDocument) :
    (annotateDocument statuses left document).Matches
      (annotateDocument statuses right document) := by
  obtain ⟨hregistry, hreport⟩ := Resource.matches_collect hmatches.registry statuses document.root
  constructor
  · exact hregistry
  · rw [Compilation.annotateDocument, Compilation.annotateDocument, hmatches.annotations, hreport]
  · rw [Compilation.annotateDocument, Compilation.annotateDocument, hmatches.diagnostics, hreport]

theorem Annotated.Matches.foldl_annotateDocument {left right : Annotated}
    (hmatches : left.Matches right) (statuses : List String) (resources : List SourceDocument) :
    (resources.foldl (Compilation.annotateDocument statuses) left).Matches
      (resources.foldl (Compilation.annotateDocument statuses) right) := by
  induction resources generalizing left right with
  | nil => exact hmatches
  | cons document rest ih => exact ih (hmatches.annotateDocument statuses document)

theorem annotate_matches {left right : Registry} (hsame : left.SameTypes right)
    (hresources : ofKind .resource documents = ofKind .resource others) (statuses : List String) :
    (annotate statuses documents left).Matches (annotate statuses others right) := by
  have hstart : Annotated.Matches ⟨left, 0, []⟩ ⟨right, 0, []⟩ := ⟨hsame, rfl, rfl⟩
  rw [annotate, annotate, hresources]
  exact hstart.foldl_annotateDocument statuses _

/-! ## The whole compilation -/

/-- Schemas that declare distinct types, of which no two are lists of the same type, can be read in
any order: the counts are the same, every name has the same type, and the descriptions and the
diagnostics are the same up to their order. -/
theorem ofDocuments_perm (options : Options) {documents others : List SourceDocument}
    (hperm : documents.Perm others)
    (hresources : ofKind .resource documents = ofKind .resource others)
    (hnames : (declaredNames options.naming.homeNamespace documents).Nodup)
    (hlists : Registry.HasDistinctSingulars options.naming.listSuffix
      (declaredNames options.naming.homeNamespace documents)) :
    (ofDocuments options documents).stats = (ofDocuments options others).stats ∧
    (∀ name, (ofDocuments options documents).registry.get? name =
      (ofDocuments options others).registry.get? name) ∧
    (ofDocuments options documents).interface.types.Perm
      (ofDocuments options others).interface.types ∧
    (ofDocuments options documents).interface.diagnostics.Perm
      (ofDocuments options others).interface.diagnostics := by
  have hannotated := annotate_matches (register_sameTypes hperm hnames) hresources
    options.methods.successStatuses
  have hresolved : (resolved options documents).names.Perm
      (declaredNames options.naming.homeNamespace documents) := by
    rw [List.perm_ext_iff_of_nodup Registry.nodup_names hnames]
    intro name
    exact mem_names_resolved
  have hregistry : (ofDocuments options documents).registry.SameTypes
      (ofDocuments options others).registry :=
    hannotated.registry.resolve.foldLists (hlists.perm hresolved.symm)
  refine ⟨?_, hregistry.get?_eq, ?_, ?_⟩
  · rw [ofDocuments, ofDocuments, Stats.mk.injEq]
    refine ⟨(ofKind_perm .schema hperm).length_eq, congrArg List.length hresources, ?_, ?_, ?_, ?_⟩
    · exact hregistry.length_eq
    · exact hannotated.annotations
    · exact hannotated.registry.danglingCount_eq
    · exact hregistry.folded.length_eq
  · exact hregistry.perm_types (nodup_names_allTypes options documents)
  · simp only [ofDocuments, hannotated.diagnostics]
    exact hregistry.perm_diagnostics.append_left _

/-- A description of resources, each given by its path and the element that is read there. -/
def readsOf (resources : List (String × String)) : Xml.Element :=
  ⟨"application", [], [⟨"resources", [("base", "http://host/api")],
    resources.map (fun (path, element) =>
      ⟨"resource", [("path", path)], [⟨"method", [("name", "GET")],
        [⟨"response", [("status", "200")],
          [⟨"representation", [("element", element)], [], ""⟩], ""⟩], ""⟩], ""⟩), ""⟩], ""⟩

/-- A user and the list of the users, declared by two schemas, and the paths where they are read. -/
def userListDocuments : List SourceDocument := [
  ⟨"wadl/user.xsd", "user", "", .schema, schemaOf [
    ("plcm-user", none, [("name", "xs:string")])]⟩,
  ⟨"wadl/user-list.xsd", "user-list", "", .schema, schemaOf [
    ("plcm-user-list", none, [("plcm-user", "user:plcm-user")])]⟩,
  ⟨"wadl/users.wadl", "users", "", .resource, readsOf [
    ("users", "plcm-user-list"), ("users/\x7bid\x7d", "plcm-user"), ("roles", "plcm-role")]⟩]

/-- The list of the users is folded whichever schema is read first. -/
theorem ofDocuments_reverse_userListDocuments :
    (ofDocuments .default userListDocuments).stats.collections = 1 ∧
    (ofDocuments .default userListDocuments).stats =
      (ofDocuments .default userListDocuments.reverse).stats ∧
    (ofDocuments .default userListDocuments).interface.types.Perm
      (ofDocuments .default userListDocuments.reverse).interface.types := by
  have hperm : userListDocuments.Perm userListDocuments.reverse :=
    (List.reverse_perm userListDocuments).symm
  have hnames : (declaredNames "polycom" userListDocuments).Nodup := by decide +kernel
  have hlists : Registry.HasDistinctSingulars "-list"
      (declaredNames "polycom" userListDocuments) := by decide +kernel
  obtain ⟨hstats, -, htypes, -⟩ := ofDocuments_perm .default hperm rfl hnames hlists
  exact ⟨by decide +kernel, hstats, htypes⟩

end Compilation

end RestModel

import RestModel.Proofs.Compilation.Reordering
import RestModel.Proofs.Descriptor.Collection
import RestModel.Proofs.Resource.Replay

/-!
# Collections and diagnostics of a compilation

Every list type that is folded into a type with a record reaches the client: the record has a model
and an endpoint for each path on which the list type can be read.  The diagnostics are the
references of the resource descriptions to undeclared elements, followed by the endpoints whose
suffix occurred before.
-/

namespace RestModel.Compilation

variable {options : Options} {home : String} {documents : List SourceDocument}

/-! ## Unregistered references -/

/-- The references of a resource description to elements that are not known. -/
def unknownReferences (statuses : List String) (known : String → Bool)
    (document : SourceDocument) : List Diagnostic :=
  ((Resource.annotations statuses document.root).filter
    (fun entry => !known entry.element)).map
      (fun entry =>
        .unregisteredReference document.path entry.path entry.element)

theorem contains_collect (registry : Registry) (statuses : List String)
    (application : Xml.Element) :
    (Resource.collect registry statuses application).registry.contains = registry.contains := by
  rw [Resource.collect_eq, Resource.contains_foldl_declare]

theorem diagnostics_annotateDocument (statuses : List String) (before : Annotated)
    (document : SourceDocument) :
    (annotateDocument statuses before document).diagnostics =
      before.diagnostics ++
        unknownReferences statuses before.registry.contains document := by
  rw [annotateDocument, Resource.collect_eq, unknownReferences, List.map_map]
  rfl

theorem diagnostics_foldl_annotateDocument (statuses : List String) (before : Annotated)
    (resources : List SourceDocument) :
    (resources.foldl (annotateDocument statuses) before).diagnostics =
      before.diagnostics ++
        resources.flatMap (unknownReferences statuses before.registry.contains) := by
  induction resources generalizing before with
  | nil => simp
  | cons document rest ih =>
      have hcontains : (annotateDocument statuses before document).registry.contains =
          before.registry.contains := contains_collect before.registry statuses document.root
      rw [List.foldl_cons, ih, hcontains, diagnostics_annotateDocument, List.flatMap_cons,
        List.append_assoc]

/-- The references of all resource descriptions to elements that no schema declares. -/
def undeclaredReferences (options : Options) (documents : List SourceDocument) :
    List Diagnostic :=
  (ofKind .resource documents).flatMap (unknownReferences options.methods.successStatuses
    (declaredNames options.naming.homeNamespace documents).contains)

theorem contains_register :
    (register home documents).contains = (declaredNames home documents).contains := by
  funext name
  rw [Bool.eq_iff_iff, Registry.contains_eq_true_iff, List.contains_iff_mem, mem_names_register]

/-- The diagnostics are the undeclared references in the order of the resource descriptions, then
the collisions of the described types in their order. -/
theorem diagnostics_ofDocuments (options : Options) (documents : List SourceDocument) :
    (ofDocuments options documents).interface.diagnostics =
      undeclaredReferences options documents ++
        ((ofDocuments options documents).interface.types.flatMap Descriptor.collisions).map
          .suffixCollision := by
  have hundeclared : (annotate options.methods.successStatuses documents
      (register options.naming.homeNamespace documents)).diagnostics =
        undeclaredReferences options documents := by
    rw [annotate, diagnostics_foldl_annotateDocument, contains_register]
    rfl
  rw [← hundeclared]
  simp only [ofDocuments, Interface.diagnostics_ofRegistry]

/-! ## Collections -/

/-- Every record with a collection has a model, and its collection has an endpoint for each path on
which the folded list type can be read; every list type folded into a type with a record is the
collection of that record; and the diagnostics are the undeclared references of the resource
descriptions, then the collisions of the records in registry order. -/
theorem ofDocuments_serves_collections (options : Options) (documents : List SourceDocument) :
    (∀ record collection, .record record ∈ (ofDocuments options documents).interface.types →
      record.collection = some collection →
      record.Serves (ofDocuments options documents).registry options.methods.readMethod
        (ofDocuments options documents).interface.diagnostics collection) ∧
    (∀ type ∈ (ofDocuments options documents).registry.types, ∀ list,
      type.collection = some list → type.isEnumeration = false →
      ∃ record collection, .record record ∈ (ofDocuments options documents).interface.types ∧
        record.name.original = type.name ∧ record.collection = some collection ∧
        collection.list.name.original = list.name) ∧
    (ofDocuments options documents).interface.types.map (·.name.original) =
      (ofDocuments options documents).registry.names ∧
    (ofDocuments options documents).interface.diagnostics =
      undeclaredReferences options documents ++
        ((ofDocuments options documents).interface.types.flatMap Descriptor.collisions).map
          .suffixCollision := by
  refine ⟨?_, ?_, ?_, diagnostics_ofDocuments options documents⟩
  · intro record collection hmem hcollection
    apply (Registry.serves_foldLists isUnfolded_resolved hmem hcollection).mono
    exact List.subset_append_right _ _
  · intro type hmem list hlist hrecord
    exact ⟨_, _, Interface.record_mem options.methods.readMethod hmem hrecord, rfl,
      congrArg (Option.map _) hlist, rfl⟩
  · exact Interface.names_ofRegistry _ _

/-- The user has a model and the collection of all users, which has an endpoint. -/
theorem exists_served_userListDocuments : ∃ record collection,
    .record record ∈ (ofDocuments .default userListDocuments).interface.types ∧
    record.collection = some collection ∧ record.model.isSome = true ∧
    ∃ path others, collection.endpoints = ⟨"", path⟩ :: others := by
  obtain ⟨hserves, hreaches, -⟩ := ofDocuments_serves_collections .default userListDocuments
  have hfolded : (ofDocuments .default userListDocuments).registry.folded.length = 1 := by
    decide +kernel
  have hrecords : (ofDocuments .default userListDocuments).registry.types.all
      (!·.isEnumeration) = true := by
    decide +kernel
  obtain ⟨list, hlist⟩ := List.exists_mem_of_length_pos (hfolded ▸ Nat.one_pos)
  obtain ⟨type, hmem, hcollection⟩ := Registry.mem_folded.mp hlist
  have hrecord : type.isEnumeration = false := by
    simpa using List.all_eq_true.mp hrecords type hmem
  obtain ⟨record, collection, hdescribed, -, htaken, -⟩ :=
    hreaches type hmem list hcollection hrecord
  have hserved := hserves record collection hdescribed htaken
  exact ⟨record, collection, hdescribed, htaken, hserved.model, hserved.first⟩

end RestModel.Compilation

import RestModel.Proofs.Descriptor.OfRegistry
import RestModel.Proofs.Endpoint

/-!
# Records with a collection

A type takes a list type only if it lies on a path and the list type can be read on one.  The record
of such a type therefore has a model, its collection has endpoints, and the client gets code for
both.  Endpoints with one suffix are kept, and reported.
-/

namespace RestModel

/-! ## Models and endpoints -/

theorem Path.isSome_simplest? (paths : List String) :
    (Path.simplest? paths).isSome = !paths.isEmpty := by
  cases paths <;> rfl

theorem Model.isSome_ofType? (type : TypeDef) : (Model.ofType? type).isSome = type.hasPaths := by
  rw [ofType?, Option.isSome_map, TypeDef.canonicalPath?, Path.isSome_simplest?, OrderedMap.keys,
    List.isEmpty_map]
  rfl

namespace Endpoints

variable {typeName readMethod : String} {paths : OrderedMap String (List String)}

theorem length_readPaths (list : TypeDef) (readMethod : String) :
    (readPaths list.paths readMethod).length = list.methodCount readMethod := by
  rw [readPaths, List.length_map, TypeDef.methodCount, OrderedMap.values, List.filter_map,
    List.length_map]
  rfl

/-- A list type that can be read has endpoints, of which the first has the empty suffix. -/
theorem exists_endpoints_ofPaths (typeName : String) (hread : readPaths paths readMethod ≠ []) :
    ∃ path others, (ofPaths typeName paths readMethod).endpoints = ⟨"", path⟩ :: others := by
  cases hendpoints : (ofPaths typeName paths readMethod).endpoints with
  | nil =>
      have hpaths := map_path_ofPaths typeName paths readMethod
      rw [hendpoints, List.map_nil] at hpaths
      have hlength := (List.mergeSort_perm (readPaths paths readMethod) isNoLonger).length_eq
      rw [← hpaths, List.length_nil] at hlength
      exact absurd (List.eq_nil_of_length_eq_zero hlength.symm) hread
  | cons first others =>
      have hsuffix : first.suffix = "" := by
        apply suffix_head?_named
        exact congrArg List.head? hendpoints
      exact ⟨first.path, others, by rw [← hsuffix]⟩

/-- Of two endpoints with one suffix, the later one is reported. -/
theorem pairwise_mem_repeatedSuffixes (typeName : String) (endpoints : List Endpoint) :
    endpoints.Pairwise (fun earlier later => earlier.suffix = later.suffix →
      ∃ firstPath, ⟨typeName, later.suffix, firstPath, later.path⟩ ∈
        repeatedSuffixes typeName endpoints) := by
  rw [List.pairwise_iff_getElem]
  intro earlier later hearlier hlater hless hsame
  have hbefore : endpoints[earlier] ∈ endpoints.take later :=
    List.mem_take_iff_getElem.mpr ⟨earlier, by omega, rfl⟩
  cases hfirst : (endpoints.take later).find? (·.suffix == endpoints[later].suffix) with
  | none => exact absurd (List.find?_eq_none.mp hfirst _ hbefore) (by simp [hsame])
  | some first =>
      refine ⟨first.path, List.mem_filterMap.mpr ⟨(endpoints[later], later), ?_, ?_⟩⟩
      · rw [List.mk_mem_zipIdx_iff_getElem?]
        exact List.getElem?_eq_getElem hlater
      · rw [collisionWith?, hfirst]
        rfl

end Endpoints

/-! ## The described types -/

/-- The collisions among the endpoints of a described type. -/
def Descriptor.collisions : Descriptor → List Collision
  | .enumeration _ => []
  | .record described =>
    match described.collection with
    | none => []
    | some collection => Endpoints.repeatedSuffixes described.name.original collection.endpoints

theorem Descriptor.collisions_ofType (registry : Registry) (readMethod : String) (type : TypeDef) :
    (ofType registry readMethod type).collisions = type.collisions readMethod := by
  rw [ofType, TypeDef.collisions]
  by_cases henumeration : type.isEnumeration = true
  · rw [if_pos henumeration, if_pos henumeration]
    rfl
  · rw [if_neg henumeration, if_neg henumeration, collisions, Record.ofType]
    cases type.collection with
    | none => rfl
    | some list => exact (Endpoints.collisions_ofPaths type.name list.paths readMethod).symm

/-- The diagnostics of a registry are the collisions of its described types, in order. -/
theorem Interface.diagnostics_ofRegistry (registry : Registry) (readMethod : String) :
    (ofRegistry registry readMethod).diagnostics =
      ((ofRegistry registry readMethod).types.flatMap Descriptor.collisions).map
        .suffixCollision := by
  rw [ofRegistry, List.flatMap_map, List.map_flatMap]
  simp only [Descriptor.collisions_ofType]

theorem Interface.names_ofRegistry (registry : Registry) (readMethod : String) :
    (ofRegistry registry readMethod).types.map (·.name.original) = registry.names := by
  rw [ofRegistry, List.map_map, Registry.names]
  apply List.map_congr_left
  intro type _
  rw [Function.comp_apply, Descriptor.ofType]
  split <;> rfl

/-- A record offers a collection to the client.  It has a model; the endpoints of the collection are
the paths on which the list type folded into its type can be read, each once, and the first has the
empty suffix; the list type keeps its constructor only; and of two endpoints with one suffix the
later one is reported. -/
structure Record.Serves (registry : Registry) (readMethod : String) (diagnostics : List Diagnostic)
    (record : Record) (collection : Collection Record) : Prop where
  model : record.model.isSome = true
  first : ∃ path others, collection.endpoints = ⟨"", path⟩ :: others
  paths : ∃ type list, registry.get? record.name.original = some type ∧
    type.collection = some list ∧ collection.list.name.original = list.name ∧
    (collection.endpoints.map Endpoint.path).Nodup ∧
    ∀ path, path ∈ collection.endpoints.map Endpoint.path ↔
      ∃ methods, (path, methods) ∈ list.paths.entries ∧ readMethod ∈ methods
  list : collection.list.constructor.isSome = true ∧ collection.list.model = none ∧
    collection.list.collection = none
  reported : collection.endpoints.Pairwise (fun earlier later => earlier.suffix = later.suffix →
    ∃ firstPath, .suffixCollision
      ⟨record.name.original, later.suffix, firstPath, later.path⟩ ∈ diagnostics)

theorem Record.Serves.mono {registry : Registry} {readMethod : String}
    {diagnostics more : List Diagnostic} {record : Record} {collection : Collection Record}
    (hserves : record.Serves registry readMethod diagnostics collection)
    (hmore : diagnostics ⊆ more) : record.Serves registry readMethod more collection where
  model := hserves.model
  first := hserves.first
  paths := hserves.paths
  list := hserves.list
  reported := by
    apply hserves.reported.imp
    intro earlier later hmay hsame
    obtain ⟨firstPath, hreported⟩ := hmay hsame
    exact ⟨firstPath, hmore hreported⟩

/-- A described record is that of a registered type. -/
theorem Interface.exists_of_record_mem {registry : Registry} {readMethod : String}
    {record : Record} (hmem : .record record ∈ (ofRegistry registry readMethod).types) :
    ∃ type ∈ registry.types, type.isEnumeration = false ∧
      record = .ofType registry readMethod type := by
  obtain ⟨type, htype, hdescribed⟩ := List.mem_map.mp hmem
  rw [Descriptor.ofType] at hdescribed
  split at hdescribed
  · exact absurd hdescribed (by simp)
  · next hrecord =>
    injection hdescribed with hdescribed
    exact ⟨type, htype, by simpa using hrecord, hdescribed.symm⟩

theorem Interface.record_mem {registry : Registry} {type : TypeDef} (readMethod : String)
    (hmem : type ∈ registry.types) (hrecord : type.isEnumeration = false) :
    .record (.ofType registry readMethod type) ∈ (ofRegistry registry readMethod).types := by
  refine List.mem_map.mpr ⟨type, hmem, ?_⟩
  rw [Descriptor.ofType, hrecord]
  rfl

/-- After folding, every record with a collection offers it to the client. -/
theorem Registry.serves_foldLists {registry : Registry} {suffix readMethod : String}
    (hunfolded : registry.IsUnfolded) {record : Record} {collection : Collection Record}
    (hmem : .record record ∈
      (Interface.ofRegistry (registry.foldLists suffix readMethod) readMethod).types)
    (hcollection : record.collection = some collection) :
    record.Serves (registry.foldLists suffix readMethod) readMethod
      (Interface.ofRegistry (registry.foldLists suffix readMethod) readMethod).diagnostics
      collection := by
  have hreported : ∀ collision ∈ Descriptor.collisions (.record record),
      .suffixCollision collision ∈
        (Interface.ofRegistry (registry.foldLists suffix readMethod) readMethod).diagnostics := by
    intro collision hcollision
    rw [Interface.diagnostics_ofRegistry]
    exact List.mem_map_of_mem (List.mem_flatMap.mpr ⟨_, hmem, hcollision⟩)
  rw [Descriptor.collisions, hcollection] at hreported
  obtain ⟨type, htype, -, rfl⟩ := Interface.exists_of_record_mem hmem
  obtain ⟨list, hlist, rfl⟩ := Option.map_eq_some_iff.mp hcollection
  have hlists := (listsType_of_collection_foldLists hunfolded htype hlist).2
  have hread : Endpoints.readPaths list.paths readMethod ≠ [] := by
    rw [← List.length_pos_iff, Endpoints.length_readPaths]
    exact TypeDef.methodCount_pos_of_listsType hlists
  have hpaths := Endpoints.map_path_ofPaths type.name list.paths readMethod
  have hperm :=
    List.mergeSort_perm (Endpoints.readPaths list.paths readMethod) Endpoints.isNoLonger
  constructor
  · exact (Model.isSome_ofType? type).trans (TypeDef.hasPaths_of_listsType hlists)
  · exact Endpoints.exists_endpoints_ofPaths type.name hread
  · refine ⟨type, list, get?_name_of_mem htype, hlist, rfl, ?_, ?_⟩
    · rw [Record.endpointsOf, hpaths, hperm.nodup_iff]
      exact Endpoints.nodup_readPaths
    · intro path
      rw [Record.endpointsOf, hpaths, hperm.mem_iff, Endpoints.mem_readPaths]
  · refine ⟨?_, rfl, rfl⟩
    rw [Record.ofListType, Constructor.ofType?,
      TypeDef.isEmpty_members_of_listsType hlists]
    rfl
  · apply (Endpoints.pairwise_mem_repeatedSuffixes type.name _).imp
    intro earlier later hmay hsame
    obtain ⟨firstPath, hrepeated⟩ := hmay hsame
    exact ⟨firstPath, hreported _ hrepeated⟩

end RestModel

import Mathlib.Data.List.Flatten
import RestModel.Proofs.Descriptor.Collection
import RestModel.Proofs.JavaScript.Requires
import RestModel.Proofs.Path.Inside

/-!
# The generated files of a registry

A file is named after its type and lies in the directory of that type.  Which files there are and
what the index exports therefore depends on few properties of the registered types.
-/

namespace RestModel.JavaScript

/-- No generated file has the path of another one of the same output, and the index exports no name
twice. -/
structure KeepsArtifacts (interface : Interface) (client : ClientOptions) : Prop where
  server : ((serverFiles interface).map File.path).Nodup
  client : ((clientFiles interface client).map File.path).Nodup
  exports : ((moduleList interface).map (·.entry.name)).Nodup

/-- The index is the last server file and has one line for each module. -/
theorem serverFiles_eq (interface : Interface) : serverFiles interface =
    (moduleList interface).map ServerModule.file ++
      [⟨"index.js", indexText ((moduleList interface).map ServerModule.entry)⟩] := rfl

/-- What an interface reports beside its types does not matter. -/
theorem KeepsArtifacts.of_types_eq {left right : Interface} {client : ClientOptions}
    (hkeeps : KeepsArtifacts left client) (htypes : left.types = right.types) :
    KeepsArtifacts right client where
  server := by
    rw [serverFiles, ← htypes]
    exact hkeeps.server
  client := by
    rw [clientFiles, ← htypes]
    exact hkeeps.client
  exports := by
    rw [moduleList, ← htypes]
    exact hkeeps.exports

/-! ## Types with files -/

/-- The types that a registered type writes modules for: itself, and the list type folded into
it. -/
def writtenTypes (type : TypeDef) : List TypeDef :=
  if type.isEnumeration then [type] else (recordTypes type).filter (!·.members.isEmpty)

/-- The types with a server module. -/
def moduleTypes (registry : Registry) : List TypeDef :=
  registry.types.flatMap writtenTypes

/-- The types with a client file. -/
def clientTypes (registry : Registry) : List TypeDef :=
  registry.types.filter (fun type => type.isEnumeration || type.hasPaths)

/-- The path of the files of a type up to what stands behind its name. -/
def stem (type : TypeDef) : String :=
  Path.source type.sourceDir type.name

/-- What stands behind the name in the path of a client file. -/
def clientExtension (isEnumeration : Bool) : String :=
  if isEnumeration then "-enum.js" else "-model.js"

/-- The path of the client file of a type. -/
def clientPath (type : TypeDef) : String :=
  stem type ++ clientExtension type.isEnumeration

variable {registry : Registry} {readMethod : String} {client : ClientOptions}

theorem source_append (directory name extension : String) :
    Path.source directory (name ++ extension) = Path.source directory name ++ extension := by
  rw [Path.source, Path.source]
  split
  · rfl
  · exact String.append_assoc.symm

section Modules

variable {α : Type} {f : ServerModule → α} {g : TypeDef → α}

theorem map_constructorModules
    (hsame : ∀ type content, f (.ofType (.ofName type.name) type.sourceDir content) = g type)
    (types : List TypeDef) : (types.flatMap (constructorModules registry)).map f =
      (types.filter (!·.members.isEmpty)).map g := by
  induction types with
  | nil => rfl
  | cons type rest ih =>
      rw [List.flatMap_cons, List.map_append, ih, constructorModules, List.filter_cons]
      split
      · next hempty => simp [hempty]
      · next hmembers => simp [hmembers, recordModule, hsame]

/-- What depends on the name and the directory of a module only can be read off its type. -/
theorem map_moduleList
    (hsame : ∀ type content, f (.ofType (.ofName type.name) type.sourceDir content) = g type) :
    (moduleList (.ofRegistry registry readMethod)).map f = (moduleTypes registry).map g := by
  rw [moduleList_ofRegistry, moduleTypes, List.map_flatMap, List.map_flatMap]
  apply List.flatMap_congr
  intro type _
  rw [ownModules, listModules, writtenTypes]
  split
  · rw [List.append_nil, List.map_singleton, List.map_singleton, enumerationModule, hsame]
  · next hrecord =>
    rw [← map_constructorModules hsame, recordTypes, if_neg hrecord, List.flatMap_cons]

end Modules

theorem paths_serverFiles : (serverFiles (.ofRegistry registry readMethod)).map File.path =
    ((moduleTypes registry).map stem ++ ["index"]).map (· ++ ".js") := by
  rw [serverFiles_eq, List.map_append, List.map_append, List.map_map, List.map_map]
  congr 1
  apply map_moduleList
  intro type content
  exact source_append type.sourceDir type.name ".js"

theorem names_exports : (moduleList (.ofRegistry registry readMethod)).map (·.entry.name) =
    (moduleTypes registry).map (fun type => Naming.camelCase type.name) :=
  map_moduleList (fun _ _ => rfl)

theorem path_clientFile? (type : TypeDef) :
    (clientFile? client (.ofType registry readMethod type)).map File.path =
      if type.isEnumeration || type.hasPaths then some (clientPath type) else none := by
  rw [Descriptor.ofType, clientPath]
  split
  · next henumeration =>
    simp only [henumeration, Bool.true_or, if_true, clientFile?, Option.map_some]
    exact congrArg some (source_append type.sourceDir type.name "-enum.js")
  · next hrecord =>
    rw [eq_false_of_ne_true hrecord, Bool.false_or, ← Model.isSome_ofType?]
    cases hmodel : Model.ofType? type with
    | none => simp [clientFile?, modelText?, Record.ofType, hmodel]
    | some model =>
        simp only [clientFile?, modelText?, Record.ofType, hmodel, Option.map_some,
          Option.isSome_some, if_true]
        exact congrArg some (source_append type.sourceDir type.name "-model.js")

theorem paths_clientFiles : (clientFiles (.ofRegistry registry readMethod) client).map File.path =
    (clientTypes registry).map clientPath :=
  calc
    (clientFiles (.ofRegistry registry readMethod) client).map File.path =
        registry.types.filterMap (fun type =>
          (clientFile? client (.ofType registry readMethod type)).map File.path) := by
      rw [clientFiles, Interface.ofRegistry, List.filterMap_map, List.map_filterMap]
      rfl
    _ = registry.types.filterMap (fun type =>
          if type.isEnumeration || type.hasPaths then some (clientPath type) else none) := by
      apply List.filterMap_congr
      intro type _
      exact path_clientFile? type
    _ = (clientTypes registry).filterMap (some ∘ clientPath) := by
      rw [clientTypes, List.filterMap_filter]
      rfl
    _ = (clientTypes registry).map clientPath := by rw [List.filterMap_eq_map]

/-! ## Files of their own -/

theorem append_injective (extension : String) :
    Function.Injective (fun text : String => text ++ extension) :=
  fun _ _ hsame => (String.append_left_inj extension).mp hsame

theorem append_clientExtension_injective :
    Function.Injective (fun entry : Bool × String => entry.2 ++ clientExtension entry.1) := by
  rintro ⟨leftKind, leftStem⟩ ⟨rightKind, rightStem⟩ hsame
  have hkind : leftKind = rightKind := by
    have hend := congrArg (fun text : String => text.toList.reverse.take 4) hsame
    cases leftKind <;> cases rightKind <;> simp [clientExtension] at hend ⊢
  subst hkind
  exact congrArg (leftKind, ·) (append_injective (clientExtension leftKind) hsame)

/-- Types with modules have paths of their own, and so have types with client files. -/
structure HasOwnStems (registry : Registry) : Prop where
  modules : ((moduleTypes registry).map stem).Nodup
  clients : ((clientTypes registry).map (fun type => (type.isEnumeration, stem type))).Nodup

/-- No module lies where the index does. -/
def LeavesIndex (registry : Registry) : Prop :=
  ∀ type ∈ moduleTypes registry, type.sourceDir = "" → type.name ≠ "index"

instance : Decidable (LeavesIndex registry) :=
  inferInstanceAs (Decidable (∀ type ∈ moduleTypes registry,
    type.sourceDir = "" → type.name ≠ "index"))

/-- Types with modules have identifiers of their own. -/
def HasOwnExports (registry : Registry) : Prop :=
  ((moduleTypes registry).map (fun type => Naming.camelCase type.name)).Nodup

instance : Decidable (HasOwnExports registry) :=
  inferInstanceAs (Decidable (List.Nodup _))

theorem stem_eq_index_iff (type : TypeDef) :
    stem type = "index" ↔ type.sourceDir = "" ∧ type.name = "index" := by
  rw [stem, Path.source]
  split
  · next hroot => exact (and_iff_right hroot).symm
  · next hbelow =>
    have hslash : type.sourceDir ++ "/" ++ type.name ≠ "index" := by
      intro hindex
      have hmem : '/' ∈ (type.sourceDir ++ "/" ++ type.name).toList := by simp
      rw [hindex] at hmem
      exact absurd hmem (by decide)
    exact iff_of_false hslash (fun hboth => hbelow hboth.1)

theorem leavesIndex_iff : LeavesIndex registry ↔ "index" ∉ (moduleTypes registry).map stem := by
  rw [List.mem_map]
  simp only [stem_eq_index_iff, LeavesIndex, not_exists, not_and, ne_eq]

theorem nodup_paths_serverFiles_iff :
    ((serverFiles (.ofRegistry registry readMethod)).map File.path).Nodup ↔
      ((moduleTypes registry).map stem).Nodup ∧ LeavesIndex registry := by
  rw [paths_serverFiles, List.nodup_map_iff (append_injective ".js"), ← List.concat_eq_append,
    List.nodup_concat, ← leavesIndex_iff, and_comm]

theorem nodup_paths_clientFiles_iff :
    ((clientFiles (.ofRegistry registry readMethod) client).map File.path).Nodup ↔
      ((clientTypes registry).map (fun type => (type.isEnumeration, stem type))).Nodup := by
  rw [paths_clientFiles, ← List.nodup_map_iff append_clientExtension_injective, List.map_map]
  rfl

theorem keepsArtifacts_ofRegistry_iff :
    KeepsArtifacts (.ofRegistry registry readMethod) client ↔
      HasOwnStems registry ∧ LeavesIndex registry ∧ HasOwnExports registry := by
  constructor
  · rintro ⟨hserver, hclient, hexports⟩
    obtain ⟨hmodules, hindex⟩ := nodup_paths_serverFiles_iff.mp hserver
    rw [names_exports] at hexports
    exact ⟨⟨hmodules, nodup_paths_clientFiles_iff.mp hclient⟩, hindex, hexports⟩
  · rintro ⟨⟨hmodules, hclients⟩, hindex, hexports⟩
    refine ⟨nodup_paths_serverFiles_iff.mpr ⟨hmodules, hindex⟩,
      nodup_paths_clientFiles_iff.mpr hclients, ?_⟩
    rw [names_exports]
    exact hexports

/-! ## Names without slashes -/

theorem mem_allTypes_of_mem_moduleTypes {type : TypeDef} (hmem : type ∈ moduleTypes registry) :
    type ∈ registry.allTypes := by
  obtain ⟨owner, howner, hwritten⟩ := List.mem_flatMap.mp hmem
  rw [writtenTypes] at hwritten
  split at hwritten
  · rw [List.mem_singleton.mp hwritten]
    exact List.mem_append_left _ howner
  · exact mem_allTypes_of_mem_recordTypes howner (List.mem_of_mem_filter hwritten)

theorem mem_allTypes_of_mem_clientTypes {type : TypeDef} (hmem : type ∈ clientTypes registry) :
    type ∈ registry.allTypes :=
  List.mem_append_left _ (List.mem_of_mem_filter hmem)

/-- No type has two modules. -/
theorem nodup_names_moduleTypes (hnodup : (registry.allTypes.map TypeDef.name).Nodup) :
    ((moduleTypes registry).map TypeDef.name).Nodup := by
  have hsublist : (moduleTypes registry).Sublist
      (registry.types.flatMap (fun type => [type] ++ type.collection.toList)) := by
    apply List.Sublist.flatMap_right
    intro type _
    rw [writtenTypes]
    split
    · exact List.sublist_append_left _ _
    · next hrecord =>
      rw [recordTypes, if_neg hrecord]
      exact List.filter_sublist
  have hperm : (registry.types.flatMap (fun type => [type] ++ type.collection.toList)).Perm
      registry.allTypes := by
    rw [Registry.allTypes, Registry.folded, List.filterMap_eq_flatMap_toList]
    have hself : registry.types.flatMap (fun type => [type]) = registry.types := by simp
    nth_rewrite 2 [← hself]
    exact (List.flatMap_append_perm _ _ _).symm
  exact ((hperm.map TypeDef.name).symm.nodup hnodup).sublist (hsublist.map TypeDef.name)

theorem nodup_map_of_nodup_names {α : Type} {f : TypeDef → α} {types : List TypeDef}
    (hnodup : (types.map TypeDef.name).Nodup)
    (hname : ∀ left ∈ types, ∀ right ∈ types, f left = f right → left.name = right.name) :
    (types.map f).Nodup := by
  apply List.Nodup.map_on _ (List.Nodup.of_map TypeDef.name hnodup)
  intro left hleft right hright hsame
  exact List.inj_on_of_nodup_map hnodup hleft hright (hname left hleft right hright hsame)

theorem getLast?_segments_stem {type : TypeDef} (hslash : '/' ∉ type.name.toList) :
    (Path.segments (stem type)).getLast? = some type.name := by
  rw [stem, Path.source]
  split
  · rw [Path.segments_of_not_mem hslash]
    rfl
  · rw [Path.segments_append_slash, Path.segments_of_not_mem hslash, List.getLast?_concat]

theorem name_eq_of_stem_eq {left right : TypeDef} (hleft : '/' ∉ left.name.toList)
    (hright : '/' ∉ right.name.toList) (hsame : stem left = stem right) :
    left.name = right.name := by
  have hlast := getLast?_segments_stem hleft
  rw [hsame, getLast?_segments_stem hright] at hlast
  exact (Option.some.inj hlast).symm

/-- Names without slashes tell files apart, whatever the directories are. -/
theorem hasOwnStems_of_not_mem (hnodup : (registry.allTypes.map TypeDef.name).Nodup)
    (hslash : ∀ type ∈ registry.allTypes, '/' ∉ type.name.toList) : HasOwnStems registry := by
  constructor
  · apply nodup_map_of_nodup_names (nodup_names_moduleTypes hnodup)
    intro left hleft right hright hsame
    exact name_eq_of_stem_eq (hslash left (mem_allTypes_of_mem_moduleTypes hleft))
      (hslash right (mem_allTypes_of_mem_moduleTypes hright)) hsame
  · have hnames : ((clientTypes registry).map TypeDef.name).Nodup :=
      registry.nodup.sublist (List.filter_sublist.map TypeDef.name)
    apply nodup_map_of_nodup_names hnames
    intro left hleft right hright hsame
    exact name_eq_of_stem_eq (hslash left (mem_allTypes_of_mem_clientTypes hleft))
      (hslash right (mem_allTypes_of_mem_clientTypes hright)) (Prod.mk.inj hsame).2

/-! ## Files inside the output directory -/

theorem isInside_stem_append_iff {type : TypeDef} {extension : String}
    (hdirectory : Path.IsInside type.sourceDir) (hextension : Path.IsExtension extension) :
    Path.IsInside (stem type ++ extension) ↔ Path.StaysInside type.sourceDir type.name := by
  rw [stem, ← source_append]
  exact Path.isInside_source_iff hdirectory hextension type.name

theorem isInside_paths_serverFiles_iff
    (hdirectories : ∀ type ∈ registry.allTypes, Path.IsInside type.sourceDir) :
    (∀ file ∈ serverFiles (.ofRegistry registry readMethod), Path.IsInside file.path) ↔
      ∀ type ∈ moduleTypes registry, Path.StaysInside type.sourceDir type.name := by
  have hindex : Path.IsInside ("index" ++ ".js") := by decide
  rw [← List.forall_mem_map (P := Path.IsInside), paths_serverFiles, List.forall_mem_map,
    List.forall_mem_append, List.forall_mem_map, List.forall_mem_singleton, and_iff_left hindex]
  apply forall₂_congr
  intro type hmem
  exact isInside_stem_append_iff (hdirectories type (mem_allTypes_of_mem_moduleTypes hmem))
    (by decide)

theorem isInside_paths_clientFiles_iff
    (hdirectories : ∀ type ∈ registry.allTypes, Path.IsInside type.sourceDir) :
    (∀ file ∈ clientFiles (.ofRegistry registry readMethod) client, Path.IsInside file.path) ↔
      ∀ type ∈ clientTypes registry, Path.StaysInside type.sourceDir type.name := by
  have hextension : ∀ isEnumeration, Path.IsExtension (clientExtension isEnumeration) := by
    decide
  rw [← List.forall_mem_map (P := Path.IsInside), paths_clientFiles, List.forall_mem_map]
  apply forall₂_congr
  intro type hmem
  exact isInside_stem_append_iff (hdirectories type (mem_allTypes_of_mem_clientTypes hmem))
    (hextension type.isEnumeration)

end RestModel.JavaScript

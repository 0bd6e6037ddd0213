import Mathlib.Algebra.Order.BigOperators.Group.List
import Mathlib.Data.String.Basic
import RestModel.Proofs.Descriptor.OfRegistry
import RestModel.Proofs.JavaScript.Output
import RestModel.Proofs.JavaScript.Source

/-!
# Server output and folding

A folded list type keeps its server module if neither the list type nor the type that takes it is an
enumeration.  An enumeration passes no list type on, so that the module is lost, and an enumeration
that is folded as a list type is written as a constructor.  In both cases the server output differs
from the output without folding.
-/

namespace RestModel.JavaScript

/-! ## Output that differs in order only -/

/-- The lines of the index, which is the last of the server files. -/
def indexLines (interface : Interface) : List String :=
  ((serverFiles interface).getLast?.map (fun index => textLines index.content)).getD []

/-- Two interfaces have the same server output: the same files besides the index, each equally
often, and indexes of the same lines in some order. -/
structure SameServerOutput (left right : Interface) : Prop where
  files : (serverFiles left).dropLast.Perm (serverFiles right).dropLast
  index : (indexLines left).Perm (indexLines right)

/-- The statement by which the index exports a type again. -/
def IndexEntry.statement (entry : IndexEntry) : String :=
  "module.exports." ++ entry.name ++ " = " ++ requireCall entry.path entry.name ++ ";"

theorem textLines_indexText (entries : List IndexEntry) : textLines (indexText entries) =
    (entries.map IndexEntry.statement).flatMap textLines ++ ["", ""] := by
  have htexts : entries.map IndexEntry.text = (entries.map IndexEntry.statement).map line := by
    rw [List.map_map]
    rfl
  rw [indexText, block_cons, block_cons, block_nil, String.append_empty, htexts,
    textLines_block_append]
  rfl

theorem indexLines_eq (interface : Interface) : indexLines interface =
    textLines (indexText ((moduleList interface).map ServerModule.entry)) := by
  rw [indexLines, serverFiles, List.getLast?_concat]
  rfl

theorem sameServerOutput_of_perm {left right : Interface}
    (hperm : (moduleList left).Perm (moduleList right)) : SameServerOutput left right := by
  constructor
  · rw [dropLast_serverFiles, dropLast_serverFiles]
    exact hperm.map ServerModule.file
  · rw [indexLines_eq, indexLines_eq, textLines_indexText, textLines_indexText]
    exact (((hperm.map ServerModule.entry).map IndexEntry.statement).flatMap_right
      textLines).append_right _

/-! ## The modules of folded and of separate types -/

theorem constructorModules_agrees {left right : Registry} (hagrees : left.AgreesWith right)
    (type : TypeDef) : constructorModules left type = constructorModules right type := by
  rw [← toList_recordModule?, ← toList_recordModule?, Record.ofListType, Record.ofListType,
    Constructor.ofType?_agrees hagrees]

theorem moduleList_agrees {left right : Registry} {readMethod : String}
    (hagrees : left.AgreesWith right) : moduleList (.ofRegistry left readMethod) =
      left.types.flatMap (fun type => ownModules right type ++ listModules right type) := by
  have hsame : constructorModules left = constructorModules right :=
    funext (constructorModules_agrees hagrees)
  rw [moduleList_ofRegistry]
  apply List.flatMap_congr
  intro type _
  rw [ownModules, listModules, hsame]
  rfl

/-- The modules that a type with a collection would have if both types were registered. -/
def separateModules (registry : Registry) (type : TypeDef) : List ServerModule :=
  ownModules registry type ++ type.collection.toList.flatMap (ownModules registry)

variable {registry : Registry} {suffix readMethod : String}

/-- Without folding, the modules are those that the folded types would have separately. -/
theorem perm_moduleList (hunfolded : registry.IsUnfolded) :
    (moduleList (.ofRegistry registry readMethod)).Perm
      ((registry.foldLists suffix readMethod).types.flatMap (separateModules registry)) := by
  have hown : moduleList (.ofRegistry registry readMethod) =
      registry.types.flatMap (ownModules registry) := by
    rw [moduleList_ofRegistry]
    apply List.flatMap_congr
    intro type hmem
    simp [listModules, hunfolded type hmem]
  rw [hown]
  have hsplit : ((registry.foldLists suffix readMethod).types.map TypeDef.unfolded ++
        (registry.foldLists suffix readMethod).folded).flatMap (ownModules registry) =
      (registry.foldLists suffix readMethod).types.flatMap (ownModules registry) ++
        (registry.foldLists suffix readMethod).types.flatMap
          (fun type => type.collection.toList.flatMap (ownModules registry)) := by
    rw [List.flatMap_append, List.flatMap_map, Registry.folded,
      List.filterMap_eq_flatMap_toList, List.flatMap_assoc]
    rfl
  calc
    List.Perm (registry.types.flatMap (ownModules registry))
        (((registry.foldLists suffix readMethod).types.map TypeDef.unfolded ++
          (registry.foldLists suffix readMethod).folded).flatMap (ownModules registry)) :=
      (Registry.perm_types_foldLists hunfolded).symm.flatMap_right (ownModules registry)
    List.Perm _ ((registry.foldLists suffix readMethod).types.flatMap (ownModules registry) ++
          (registry.foldLists suffix readMethod).types.flatMap
            (fun type => type.collection.toList.flatMap (ownModules registry))) :=
      List.Perm.of_eq hsplit
    List.Perm _ ((registry.foldLists suffix readMethod).types.flatMap
          (separateModules registry)) := List.flatMap_append_perm _ _ _

/-! ## Folds between records -/

/-- No enumeration has a collection, and none is one. -/
def FoldsRecordsOnly (registry : Registry) : Prop :=
  ∀ type ∈ registry.types, ∀ list ∈ type.collection,
    type.isEnumeration = false ∧ list.isEnumeration = false

instance : Decidable (FoldsRecordsOnly registry) :=
  inferInstanceAs (Decidable (∀ type ∈ registry.types, ∀ list ∈ type.collection,
    type.isEnumeration = false ∧ list.isEnumeration = false))

theorem listModules_eq_flatMap {type : TypeDef} (hrecords : ∀ list ∈ type.collection,
      type.isEnumeration = false ∧ list.isEnumeration = false) :
    listModules registry type = type.collection.toList.flatMap (ownModules registry) := by
  cases hcollection : type.collection with
  | none => simp [listModules, hcollection]
  | some list =>
      obtain ⟨htype, hlist⟩ := hrecords list hcollection
      simp [listModules, ownModules, hcollection, htype, hlist]

theorem sameServerOutput_of_foldsRecordsOnly (hunfolded : registry.IsUnfolded)
    (hrecords : FoldsRecordsOnly (registry.foldLists suffix readMethod)) :
    SameServerOutput (.ofRegistry (registry.foldLists suffix readMethod) readMethod)
      (.ofRegistry registry readMethod) := by
  have hmodules : moduleList (.ofRegistry (registry.foldLists suffix readMethod) readMethod) =
      (registry.foldLists suffix readMethod).types.flatMap (separateModules registry) := by
    rw [moduleList_agrees (Registry.agreesWith_foldLists hunfolded)]
    apply List.flatMap_congr
    intro type hmem
    rw [separateModules, listModules_eq_flatMap (hrecords type hmem)]
  apply sameServerOutput_of_perm
  rw [hmodules]
  exact (perm_moduleList hunfolded).symm

/-! ## Folds with enumerations -/

theorem append_lt_append_left (opening : String) {left right : String} (hlt : left < right) :
    opening ++ left < opening ++ right := by
  rw [String.lt_iff_toList_lt, String.toList_append, String.toList_append]
  exact List.append_left_lt (String.lt_iff_toList_lt.mp hlt)

theorem function_lt_brace (left right : String) : "function(" ++ left < "\x7b" ++ right := by
  rw [String.lt_iff_toList_lt, String.toList_append, String.toList_append]
  exact List.cons_lt_cons_iff.mpr (Or.inl (by decide))

/-- As a constructor without a base, an enumeration has a text that comes before its own. -/
theorem constructorModule_lt_enumerationText {record : Record} {constructor : Constructor}
    {enumeration : Enumeration} (hname : record.name = enumeration.name)
    (hbase : constructor.base = none) :
    constructorModule record constructor < enumerationText enumeration true := by
  have hfunction : " = function(" = " = " ++ "function(" := by decide
  have hbrace : " = \x7b" = " = " ++ "\x7b" := by decide
  rw [constructorModule, moduleHead, bareConstructor, enumerationText, hname, hbase, hfunction,
    hbrace]
  simp only [block_cons, block_nil, line, onlyIf, Option.map_none, Option.getD_none,
    String.append_assoc, String.append_empty, String.empty_append, if_true]
  -- Both texts begin alike up to the value of the variable.
  iterate 5 apply append_lt_append_left
  exact function_lt_brace _ _

theorem content_lt_of_mem_constructorModules {type : TypeDef} {written : ServerModule}
    (hbase : type.base = none) (hmem : written ∈ constructorModules registry type) :
    written.file.content < (enumerationModule type).file.content := by
  rw [(mem_constructorModules.mp hmem).2]
  apply constructorModule_lt_enumerationText rfl
  rw [Constructor.ofType, Constructor.baseOf, hbase]
  rfl

/-- Whether the text of a module comes at or behind a bound in the order of texts.  Types of
different directories may have the same path, so outputs are told apart by the number of modules
beyond a bound and not by the module at some path. -/
def isBeyond (bound : String) (written : ServerModule) : Bool :=
  decide (bound ≤ written.file.content)

theorem countP_constructorModules_eq_zero {type : TypeDef} {bound : String}
    (hbase : type.base = none) (hbound : (enumerationModule type).file.content ≤ bound) :
    (constructorModules registry type).countP (isBeyond bound) = 0 := by
  rw [List.countP_eq_zero]
  intro written hmem
  rw [isBeyond, decide_eq_true_iff, not_le]
  exact (content_lt_of_mem_constructorModules hbase hmem).trans_le hbound

theorem countP_constructorModules_le {type : TypeDef} (bound : String)
    (hbase : type.isEnumeration = true → type.base = none) :
    (constructorModules registry type).countP (isBeyond bound) ≤
      (ownModules registry type).countP (isBeyond bound) := by
  rw [ownModules]
  split
  · next henumeration =>
    rcases le_total (enumerationModule type).file.content bound with hle | hge
    · rw [countP_constructorModules_eq_zero (hbase henumeration) hle]
      exact Nat.zero_le _
    · have hown : isBeyond bound (enumerationModule type) = true := decide_eq_true hge
      rw [List.countP_singleton, hown, if_pos rfl]
      refine List.countP_le_length.trans ?_
      rw [constructorModules]
      split <;> simp
  · exact le_rfl

/-- Lists that enumerations take, or that are enumerations, have texts too early in order. -/
theorem countP_listModules_le {type : TypeDef} (bound : String)
    (hbase : ∀ list ∈ type.collection, list.isEnumeration = true → list.base = none) :
    (listModules registry type).countP (isBeyond bound) ≤
      (type.collection.toList.flatMap (ownModules registry)).countP (isBeyond bound) := by
  rw [listModules]
  split
  · exact Nat.zero_le _
  · cases hcollection : type.collection with
    | none => exact le_rfl
    | some list =>
        rw [Option.toList_some, List.flatMap_singleton, List.flatMap_singleton]
        exact countP_constructorModules_le bound (hbase list hcollection)

theorem exists_countP_listModules_lt {type list : TypeDef} (hlist : list ∈ type.collection)
    (hmembers : list.members.isEmpty = false)
    (hbase : list.isEnumeration = true → list.base = none)
    (henumeration : type.isEnumeration = true ∨ list.isEnumeration = true) :
    ∃ bound, (listModules registry type).countP (isBeyond bound) <
      (type.collection.toList.flatMap (ownModules registry)).countP (isBeyond bound) := by
  obtain ⟨written, hown⟩ : ∃ written, ownModules registry list = [written] :=
    exists_ownModules hmembers
  have hbeyond : isBeyond written.file.content written = true := decide_eq_true le_rfl
  refine ⟨written.file.content, ?_⟩
  rw [listModules, Option.mem_def.mp hlist, Option.toList_some, List.flatMap_singleton,
    List.flatMap_singleton, hown, List.countP_singleton, hbeyond, if_pos rfl]
  split
  · exact Nat.zero_lt_one
  · next hrecord =>
    have hlisted := henumeration.resolve_left hrecord
    rw [ownModules, if_pos hlisted, List.singleton_inj] at hown
    rw [countP_constructorModules_eq_zero (hbase hlisted)
      (congrArg (fun found : ServerModule => found.file.content) hown).le]
    exact Nat.zero_lt_one

theorem countP_moduleList_eq {left right : Interface} (hsame : SameServerOutput left right)
    (bound : String) : (moduleList left).countP (isBeyond bound) =
      (moduleList right).countP (isBeyond bound) := by
  have hfiles := hsame.files.countP_eq (fun file => decide (bound ≤ file.content))
  rw [dropLast_serverFiles, dropLast_serverFiles, List.countP_map, List.countP_map] at hfiles
  exact hfiles

/-- A fold with an enumeration leaves fewer modules beyond some bound. -/
theorem exists_countP_moduleList_lt (hunfolded : registry.IsUnfolded)
    (hbase : ∀ type ∈ registry.types, type.isEnumeration = true → type.base = none)
    {type list : TypeDef} (hmem : type ∈ (registry.foldLists suffix readMethod).types)
    (hlist : list ∈ type.collection)
    (henumeration : type.isEnumeration = true ∨ list.isEnumeration = true) :
    ∃ bound, (moduleList (.ofRegistry (registry.foldLists suffix readMethod)
        readMethod)).countP (isBeyond bound) <
      (moduleList (.ofRegistry registry readMethod)).countP (isBeyond bound) := by
  obtain ⟨hregistered, hmembers⟩ :=
    Registry.mem_types_of_collection_foldLists hunfolded hmem hlist
  obtain ⟨bound, hless⟩ : ∃ bound, (listModules registry type).countP (isBeyond bound) <
      (type.collection.toList.flatMap (ownModules registry)).countP (isBeyond bound) :=
    exists_countP_listModules_lt hlist hmembers (hbase list hregistered) henumeration
  have hperm : (moduleList (.ofRegistry registry readMethod)).Perm
      ((registry.foldLists suffix readMethod).types.flatMap (separateModules registry)) :=
    perm_moduleList hunfolded
  refine ⟨bound, ?_⟩
  rw [moduleList_agrees (Registry.agreesWith_foldLists hunfolded), hperm.countP_eq,
    List.countP_flatMap, List.countP_flatMap]
  -- No type has more modules beyond the bound, and the given one has fewer.
  apply List.sum_lt_sum
  · intro other hother
    simp only [Function.comp_apply, separateModules, List.countP_append]
    apply Nat.add_le_add_left
    apply countP_listModules_le
    intro taken htaken
    exact hbase taken (Registry.mem_types_of_collection_foldLists hunfolded hother htaken).1
  · refine ⟨type, hmem, ?_⟩
    simp only [Function.comp_apply, separateModules, List.countP_append]
    exact Nat.add_lt_add_left hless _

theorem foldsRecordsOnly_of_sameServerOutput (hunfolded : registry.IsUnfolded)
    (hbase : ∀ type ∈ registry.types, type.isEnumeration = true → type.base = none)
    (hsame : SameServerOutput (.ofRegistry (registry.foldLists suffix readMethod) readMethod)
      (.ofRegistry registry readMethod)) :
    FoldsRecordsOnly (registry.foldLists suffix readMethod) := by
  intro type hmem list hlist
  by_contra hviolated
  have henumeration : type.isEnumeration = true ∨ list.isEnumeration = true := by
    cases htype : type.isEnumeration <;> cases hlisted : list.isEnumeration <;> simp_all
  obtain ⟨bound, hfewer⟩ :=
    exists_countP_moduleList_lt hunfolded hbase hmem hlist henumeration
  rw [countP_moduleList_eq hsame] at hfewer
  exact Nat.lt_irrefl _ hfewer

/-! ## When folding does not show -/

/-- Folding does not change the server output if no enumeration takes a list type or is one.
If enumerations extend nothing, as in schemas, then it changes the output in all other cases. -/
theorem sameServerOutput_foldLists (registry : Registry) (suffix readMethod : String)
    (hunfolded : registry.IsUnfolded) :
    (FoldsRecordsOnly (registry.foldLists suffix readMethod) →
      SameServerOutput (.ofRegistry (registry.foldLists suffix readMethod) readMethod)
        (.ofRegistry registry readMethod)) ∧
    ((∀ type ∈ registry.types, type.isEnumeration = true → type.base = none) →
      SameServerOutput (.ofRegistry (registry.foldLists suffix readMethod) readMethod)
        (.ofRegistry registry readMethod) →
      FoldsRecordsOnly (registry.foldLists suffix readMethod)) :=
  ⟨sameServerOutput_of_foldsRecordsOnly hunfolded, foldsRecordsOnly_of_sameServerOutput hunfolded⟩

theorem sameServerOutput_userRegistry :
    (Registry.userRegistry.foldLists "-list" "GET").names = ["plcm-user"] ∧
      SameServerOutput (.ofRegistry (Registry.userRegistry.foldLists "-list" "GET") "GET")
        (.ofRegistry Registry.userRegistry "GET") := by
  have hunfolded : Registry.userRegistry.IsUnfolded := by
    simp [Registry.IsUnfolded, Registry.userRegistry, Registry.userList, TypeDef.named]
  have hrecords : FoldsRecordsOnly (Registry.userRegistry.foldLists "-list" "GET") := by
    decide +kernel
  refine ⟨by decide +kernel, ?_⟩
  exact (sameServerOutput_foldLists Registry.userRegistry "-list" "GET" hunfolded).1 hrecords

/-- An enumeration `plcm-tier` and the list of it, both on a path. -/
def tierRegistry : Registry where
  types := [
    { TypeDef.named "plcm-tier" "urn:polycom:tier" "" with
      isEnumeration := true
      members := .ofList [("Gold", .literal "Gold")]
      paths := .ofList [("/api/tiers/\x7bid\x7d", ["GET"])] },
    { TypeDef.named "plcm-tier-list" "urn:polycom:tier-list" "" with
      members := .ofList [("plcm-tier", .resolved "plcm-tier" "t:plcm-tier")]
      paths := .ofList [("/api/tiers", ["GET"])] }]
  nodup := by decide

/-- The enumeration takes the list type, whose module is lost. -/
theorem not_sameServerOutput_tierRegistry : tierRegistry.IsUnfolded ∧
    ¬ SameServerOutput (.ofRegistry (tierRegistry.foldLists "-list" "GET") "GET")
      (.ofRegistry tierRegistry "GET") := by
  constructor
  · simp [Registry.IsUnfolded, tierRegistry, TypeDef.named]
  · intro hsame
    have hlength := hsame.files.length_eq
    revert hlength
    decide +kernel

end RestModel.JavaScript

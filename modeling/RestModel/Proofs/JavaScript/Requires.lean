import RestModel.Proofs.Descriptor.OfRegistry
import RestModel.Proofs.JavaScript.Output
import RestModel.Proofs.JavaScript.Source
import RestModel.Proofs.Path.Module

/-!
# What constructor modules load

The module of a constructor loads the modules of its base and of the types of its members.  Each of
them is there if the type has members and no enumeration has taken it as its list type.  A type
without members has no module, yet a constructor loads it as its base.
-/

namespace RestModel.JavaScript

/-! ## Loaded links -/

/-- The links that a constructor loads: its base, then the types of its members. -/
def loadedLinks (constructor : Constructor) : List TypeLink :=
  constructor.base.toList ++ constructor.requires

theorem hasLine_exportStatement_enumerationText (enumeration : Enumeration) :
    HasLine (enumerationText enumeration true) (exportStatement enumeration.name.camelCase) := by
  change HasLine (block (line moduleStatement :: [
    "var " ++ enumeration.name.camelCase ++ " = \x7b",
    "  " ++ ",\n  ".intercalate (enumeration.variants.map variantEntry),
    "\x7d;", "", exportStatement enumeration.name.camelCase].map line)) _
  apply hasLine_block_cons_of_mem
  simp

theorem hasLine_exportStatement_constructorModule (record : Record) (constructor : Constructor) :
    HasLine (constructorModule record constructor) (exportStatement record.name.camelCase) := by
  have htail : HasLine (moduleTail record.name.camelCase record.sourceDir constructor.requires
      constructor.memberlessRequires) (exportStatement record.name.camelCase) :=
    hasLine_block_cons_cons "" _ _
  exact hasLine_block_of_mem (by simp) htail

theorem hasLine_requireStatement_moduleHead (sourceDir : String) (link : TypeLink) :
    HasLine (moduleHead sourceDir (some link)) (requireStatement sourceDir link) := by
  refine ⟨moduleStatement, line "", ?_⟩
  simp only [moduleHead, Option.map_some, Option.getD_some, block_cons, block_nil,
    String.append_empty, String.append_assoc]

theorem hasLine_requireStatement_moduleTail {name sourceDir : String} {link : TypeLink}
    {requires memberless : List TypeLink} (hlink : link ∈ requires) :
    HasLine (moduleTail name sourceDir requires memberless)
      (requireStatement sourceDir link) := by
  have hsome : (!requires.isEmpty || !memberless.isEmpty) = true := by
    rw [List.isEmpty_eq_false_iff_exists_mem.mpr ⟨link, hlink⟩]
    rfl
  have hstatement : HasLine
      (block (line "" :: (requires.map (requireStatement sourceDir)).map line))
      (requireStatement sourceDir link) :=
    hasLine_block_cons_of_mem (List.mem_map_of_mem hlink)
  have hlines : HasLine (block [onlyIf (!requires.isEmpty || !memberless.isEmpty) (line ""),
      block (requires.map (fun other => line (requireStatement sourceDir other)))])
      (requireStatement sourceDir link) := by
    rw [List.map_map, block_cons] at hstatement
    rw [hsome, block_cons, block_cons, block_nil, String.append_empty]
    exact hstatement
  exact hlines.block_append [line "", line (exportStatement name)] _

/-- Every loaded link is written as a statement of its own. -/
theorem hasLine_requireStatement_constructorModule {record : Record} {constructor : Constructor}
    {link : TypeLink} (hlink : link ∈ loadedLinks constructor) :
    HasLine (constructorModule record constructor) (requireStatement record.sourceDir link) := by
  rcases List.mem_append.mp hlink with hbase | hrequired
  · have hhead := hasLine_requireStatement_moduleHead record.sourceDir link
    rw [← Option.mem_toList.mp hbase] at hhead
    exact hasLine_block_of_mem (by simp) hhead
  · have htail : HasLine (moduleTail record.name.camelCase record.sourceDir constructor.requires
        constructor.memberlessRequires) (requireStatement record.sourceDir link) :=
      hasLine_requireStatement_moduleTail hrequired
    exact hasLine_block_of_mem (by simp) htail

/-- The records of a described type, that of the folded list type included. -/
def recordsOf : Descriptor → List Record
  | .enumeration _ => []
  | .record record => withListType record

/-- The module file of a record with a constructor. -/
def constructorFile (record : Record) (constructor : Constructor) : File :=
  ⟨Path.source record.sourceDir (record.name.original ++ ".js"),
    constructorModule record constructor⟩

/-- The constructor file of a record loads a name from a module path. -/
def RecordLoads (record : Record) (origin : File) (path name : String) : Prop :=
  ∃ constructor, record.constructor = some constructor ∧
    origin = constructorFile record constructor ∧
      ∃ link ∈ loadedLinks constructor, name = link.name.camelCase ∧
        path = Path.require record.sourceDir link.sourceDir link.name.original

/-- A constructor file of the interface loads a name from a module path. -/
def Loads (interface : Interface) (origin : File) (path name : String) : Prop :=
  ∃ descriptor ∈ interface.types, ∃ record ∈ recordsOf descriptor,
    RecordLoads record origin path name

/-- A file that loads something is a server file in which the statement stands. -/
theorem mem_serverFiles_of_loads {interface : Interface} {origin : File} {path name : String}
    (hloads : Loads interface origin path name) :
    origin ∈ serverFiles interface ∧
      HasLine origin.content ("var " ++ name ++ " = " ++ requireCall path name ++ ";") := by
  obtain ⟨descriptor, hdescriptor, record, hrecord, constructor, hconstructor, rfl, link, hlink,
    rfl, rfl⟩ := hloads
  constructor
  · have hmodule : ServerModule.ofType record.name record.sourceDir
        (constructorModule record constructor) ∈ serverModules descriptor := by
      cases descriptor with
      | enumeration enumeration => exact absurd hrecord List.not_mem_nil
      | record described =>
          refine List.mem_filterMap.mpr ⟨record, hrecord, ?_⟩
          rw [recordModule?, constructorText?, hconstructor]
          rfl
    have hlisted := List.mem_map_of_mem (f := ServerModule.file)
      (List.mem_flatMap.mpr ⟨descriptor, hdescriptor, hmodule⟩)
    exact List.mem_append_left _ hlisted
  · exact hasLine_requireStatement_constructorModule hlink

/-- A module path leads from the directory of a file to another file, but for the extension of that
file. -/
def LeadsTo (origin : File) (path : String) (target : File) : Prop :=
  ∃ place stem, Path.locate (Path.locate [] origin.path).dropLast path = place ++ [stem] ∧
    Path.locate [] target.path = place ++ [stem ++ ".js"]

/-- Whatever a constructor file loads is exported by the server file to which the path leads. -/
def IsClosedUnderRequire (interface : Interface) : Prop :=
  ∀ origin path name, Loads interface origin path name →
    ∃ target ∈ serverFiles interface, LeadsTo origin path target ∧
      HasLine target.content (exportStatement name)

/-! ## Loaded types -/

/-- The types that the constructor of a type loads: its base, then the types of its members. -/
def loadedTypes (registry : Registry) (type : TypeDef) : List TypeDef :=
  (Constructor.baseOf registry type).toList ++
    (Constructor.required registry type).filter (!·.members.isEmpty)

/-- The types that are described as records: a type other than an enumeration, and the list type
folded into it. -/
def recordTypes (type : TypeDef) : List TypeDef :=
  if type.isEnumeration then [] else type :: type.collection.toList

/-- The types that have a constructor module. -/
def constructorTypes (registry : Registry) : List TypeDef :=
  (registry.types.flatMap recordTypes).filter (!·.members.isEmpty)

variable {registry : Registry} {readMethod : String} {origin : File} {path name : String}

theorem loadedLinks_ofType (registry : Registry) (type : TypeDef) :
    loadedLinks (.ofType registry type) = (loadedTypes registry type).map .ofType := by
  rw [loadedLinks, loadedTypes, List.map_append, Constructor.ofType, Option.toList_map]

theorem recordLoads_ofListType_iff {type : TypeDef} :
    RecordLoads (.ofListType registry type) origin path name ↔ type.members.isEmpty = false ∧
      ∃ target ∈ loadedTypes registry type, origin = (recordModule registry type).file ∧
        name = Naming.camelCase target.name ∧
          path = Path.require type.sourceDir target.sourceDir target.name := by
  constructor
  · rintro ⟨constructor, hconstructor, rfl, link, hlink, rfl, rfl⟩
    change Constructor.ofType? registry type = some constructor at hconstructor
    rw [Constructor.ofType?] at hconstructor
    split at hconstructor
    · exact absurd hconstructor (by simp)
    · next hmembers =>
      injection hconstructor with hconstructor
      rw [← hconstructor, loadedLinks_ofType] at hlink
      obtain ⟨target, htarget, rfl⟩ := List.mem_map.mp hlink
      rw [← hconstructor]
      exact ⟨eq_false_of_ne_true hmembers, target, htarget, rfl, rfl, rfl⟩
  · rintro ⟨hmembers, target, htarget, rfl, rfl, rfl⟩
    refine ⟨.ofType registry type, ?_, rfl, .ofType target, ?_, rfl, rfl⟩
    · change Constructor.ofType? registry type = some _
      rw [Constructor.ofType?, hmembers]
      rfl
    · rw [loadedLinks_ofType]
      exact List.mem_map_of_mem htarget

/-- Only the constructors of the described records matter for what is loaded. -/
theorem exists_recordLoads_iff {type : TypeDef} :
    (∃ record ∈ recordsOf (.ofType registry readMethod type),
        RecordLoads record origin path name) ↔
      ∃ described ∈ recordTypes type,
        RecordLoads (.ofListType registry described) origin path name := by
  rw [Descriptor.ofType, recordTypes]
  split
  · simp [recordsOf]
  · simp only [recordsOf, withListType, List.mem_cons, exists_eq_or_imp]
    apply or_congr Iff.rfl
    cases hcollection : type.collection with
    | none => simp [Record.ofType, hcollection]
    | some list => simp [Record.ofType, hcollection]

theorem mem_constructorTypes {type : TypeDef} : type ∈ constructorTypes registry ↔
    (∃ owner ∈ registry.types, type ∈ recordTypes owner) ∧ type.members.isEmpty = false := by
  rw [constructorTypes, List.mem_filter, List.mem_flatMap, Bool.not_eq_true']

theorem loads_ofRegistry_iff : Loads (.ofRegistry registry readMethod) origin path name ↔
    ∃ type ∈ constructorTypes registry, ∃ target ∈ loadedTypes registry type,
      origin = (recordModule registry type).file ∧ name = Naming.camelCase target.name ∧
        path = Path.require type.sourceDir target.sourceDir target.name := by
  constructor
  · rintro ⟨descriptor, hdescriptor, hrecord⟩
    obtain ⟨owner, howner, rfl⟩ := List.mem_map.mp hdescriptor
    obtain ⟨type, htype, hloads⟩ := exists_recordLoads_iff.mp hrecord
    obtain ⟨hmembers, htarget⟩ := recordLoads_ofListType_iff.mp hloads
    exact ⟨type, mem_constructorTypes.mpr ⟨⟨owner, howner, htype⟩, hmembers⟩, htarget⟩
  · rintro ⟨type, hconstructed, htarget⟩
    obtain ⟨⟨owner, howner, htype⟩, hmembers⟩ := mem_constructorTypes.mp hconstructed
    refine ⟨.ofType registry readMethod owner, List.mem_map_of_mem howner, ?_⟩
    exact exists_recordLoads_iff.mpr
      ⟨type, htype, recordLoads_ofListType_iff.mpr ⟨hmembers, htarget⟩⟩

/-! ## Modules for all types that are loaded -/

theorem mem_allTypes_of_mem_recordTypes {owner type : TypeDef} (howner : owner ∈ registry.types)
    (htype : type ∈ recordTypes owner) : type ∈ registry.allTypes := by
  rw [recordTypes] at htype
  split at htype
  · exact absurd htype List.not_mem_nil
  · rcases List.mem_cons.mp htype with rfl | hlist
    · exact List.mem_append_left _ howner
    · exact List.mem_append_right _
        (Registry.mem_folded.mpr ⟨owner, howner, Option.mem_toList.mp hlist⟩)

theorem mem_allTypes_of_mem_loadedTypes {type target : TypeDef}
    (htarget : target ∈ loadedTypes registry type) : target ∈ registry.allTypes := by
  rcases List.mem_append.mp htarget with hbase | hrequired
  · exact Constructor.mem_allTypes_of_baseOf (Option.mem_toList.mp hbase)
  · exact Constructor.mem_allTypes_of_mem_requiredTypes (List.mem_of_mem_filter hrequired)

/-- The list types that enumerations have taken.  They are described nowhere. -/
def lostLists (registry : Registry) : List TypeDef :=
  (registry.types.filter (·.isEnumeration)).filterMap TypeDef.collection

/-- Every type that a constructor loads has members and was not taken by an enumeration. -/
def LoadsModulesOnly (registry : Registry) : Prop :=
  ∀ type ∈ constructorTypes registry, ∀ target ∈ loadedTypes registry type,
    target.members.isEmpty = false ∧ target.name ∉ (lostLists registry).map TypeDef.name

instance : Decidable (LoadsModulesOnly registry) :=
  inferInstanceAs (Decidable (∀ type ∈ constructorTypes registry,
    ∀ target ∈ loadedTypes registry type,
      target.members.isEmpty = false ∧ target.name ∉ (lostLists registry).map TypeDef.name))

/-- Each type of the registry can be written to a file of its own. -/
structure IsWritable (registry : Registry) : Prop where
  nodup : (registry.allTypes.map TypeDef.name).Nodup
  plain : ∀ type ∈ registry.allTypes, Path.IsPlain type.sourceDir
  fileName : ∀ type ∈ registry.allTypes, Path.IsFileName type.name
  enumeration : ∀ type ∈ registry.allTypes,
    type.isEnumeration = true → type.members.isEmpty = false

/-- A module lies where the module of the type is expected and exports the type. -/
structure IsModuleOf (type : TypeDef) (file : File) : Prop where
  path : file.path = Path.source type.sourceDir (type.name ++ ".js")
  hasLine : HasLine file.content (exportStatement (Naming.camelCase type.name))

theorem isModuleOf_recordModule (registry : Registry) (type : TypeDef) :
    IsModuleOf type (recordModule registry type).file :=
  ⟨rfl, hasLine_exportStatement_constructorModule _ _⟩

theorem isModuleOf_enumerationModule (type : TypeDef) :
    IsModuleOf type (enumerationModule type).file :=
  ⟨rfl, hasLine_exportStatement_enumerationText _⟩

/-- A type with members that no enumeration has taken has a module. -/
theorem exists_isModuleOf {target : TypeDef} (hmem : target ∈ registry.allTypes)
    (hmembers : target.members.isEmpty = false)
    (hkept : target.name ∉ (lostLists registry).map TypeDef.name) :
    ∃ file ∈ serverFiles (.ofRegistry registry readMethod), IsModuleOf target file := by
  have hwritten : ∀ owner ∈ registry.types, ∀ written ∈ ownModules registry owner ++
      listModules registry owner,
      written.file ∈ serverFiles (.ofRegistry registry readMethod) := by
    intro owner howner written hmodule
    have hlisted : written ∈ moduleList (.ofRegistry registry readMethod) := by
      rw [moduleList_ofRegistry]
      exact List.mem_flatMap.mpr ⟨owner, howner, hmodule⟩
    exact List.mem_append_left _ (List.mem_map_of_mem hlisted)
  have hrecord : recordModule registry target ∈ constructorModules registry target :=
    mem_constructorModules.mpr ⟨hmembers, rfl⟩
  rcases List.mem_append.mp hmem with hregistered | hfolded
  · by_cases henumeration : target.isEnumeration = true
    · refine ⟨(enumerationModule target).file, ?_, isModuleOf_enumerationModule target⟩
      apply hwritten target hregistered
      rw [ownModules, if_pos henumeration]
      exact List.mem_append_left _ List.mem_cons_self
    · refine ⟨(recordModule registry target).file, ?_, isModuleOf_recordModule registry target⟩
      apply hwritten target hregistered
      rw [ownModules, if_neg henumeration]
      exact List.mem_append_left _ hrecord
  · obtain ⟨owner, howner, hcollection⟩ := Registry.mem_folded.mp hfolded
    refine ⟨(recordModule registry target).file, ?_, isModuleOf_recordModule registry target⟩
    apply hwritten owner howner
    have hrecordOwner : ¬ owner.isEnumeration = true := by
      intro henumeration
      apply hkept
      apply List.mem_map_of_mem
      exact List.mem_filterMap.mpr
        ⟨owner, List.mem_filter.mpr ⟨howner, henumeration⟩, hcollection⟩
    rw [listModules, if_neg hrecordOwner, hcollection, Option.toList_some,
      List.flatMap_singleton]
    exact List.mem_append_right _ hrecord

theorem mem_lostLists {list : TypeDef} : list ∈ lostLists registry ↔
    ∃ owner ∈ registry.types, owner.isEnumeration = true ∧ owner.collection = some list := by
  rw [lostLists, List.mem_filterMap]
  simp only [List.mem_filter, and_assoc]

theorem not_lost_of_mem_types (hwritable : IsWritable registry) {type : TypeDef}
    (hmem : type ∈ registry.types) :
    type.name ∉ (lostLists registry).map TypeDef.name := by
  intro hlost
  obtain ⟨list, hlist, hname⟩ := List.mem_map.mp hlost
  obtain ⟨owner, howner, -, hcollection⟩ := mem_lostLists.mp hlist
  have hnodup := hwritable.nodup
  rw [Registry.names_allTypes, List.nodup_append] at hnodup
  exact hnodup.2.2 type.name (Registry.name_mem_names hmem) list.name
    (List.mem_map_of_mem (Registry.mem_folded.mpr ⟨owner, howner, hcollection⟩)) hname.symm

theorem not_lost_of_collection (hwritable : IsWritable registry) {owner type : TypeDef}
    (howner : owner ∈ registry.types) (hrecord : ¬ owner.isEnumeration = true)
    (hcollection : owner.collection = some type) :
    type.name ∉ (lostLists registry).map TypeDef.name := by
  intro hlost
  obtain ⟨list, hlist, hname⟩ := List.mem_map.mp hlost
  obtain ⟨other, hother, henumeration, hotherList⟩ := mem_lostLists.mp hlist
  have hnodup := hwritable.nodup
  rw [Registry.names_allTypes, List.nodup_append] at hnodup
  apply hrecord
  rw [Registry.eq_of_collection_name_eq hnodup.2.1 howner hother hcollection hotherList
    hname.symm]
  exact henumeration

/-- Besides the index, only types with members that no enumeration has taken have a file. -/
theorem isModuleOf_of_mem_serverFiles (hwritable : IsWritable registry) {file : File}
    (hmem : file ∈ serverFiles (.ofRegistry registry readMethod)) :
    file.path = "index.js" ∨ ∃ type ∈ registry.allTypes, IsModuleOf type file ∧
      type.members.isEmpty = false ∧ type.name ∉ (lostLists registry).map TypeDef.name := by
  rcases List.mem_append.mp hmem with hmodule | hindex
  · obtain ⟨written, hwritten, rfl⟩ := List.mem_map.mp hmodule
    change written ∈ moduleList (.ofRegistry registry readMethod) at hwritten
    rw [moduleList_ofRegistry] at hwritten
    obtain ⟨owner, howner, hplace⟩ := List.mem_flatMap.mp hwritten
    have hregistered : owner ∈ registry.allTypes := List.mem_append_left _ howner
    right
    rcases List.mem_append.mp hplace with hown | hlist
    · refine ⟨owner, hregistered, ?_⟩
      rw [ownModules] at hown
      split at hown
      · next henumeration =>
        rw [List.mem_singleton.mp hown]
        exact ⟨isModuleOf_enumerationModule owner,
          hwritable.enumeration owner hregistered henumeration,
          not_lost_of_mem_types hwritable howner⟩
      · obtain ⟨hmembers, rfl⟩ := mem_constructorModules.mp hown
        exact ⟨isModuleOf_recordModule registry owner, hmembers,
          not_lost_of_mem_types hwritable howner⟩
    · rw [listModules] at hlist
      split at hlist
      · exact absurd hlist List.not_mem_nil
      · next hrecord =>
        obtain ⟨list, hcollection, hlist⟩ := List.mem_flatMap.mp hlist
        obtain ⟨hmembers, rfl⟩ := mem_constructorModules.mp hlist
        have hcollection := Option.mem_toList.mp hcollection
        exact ⟨list, List.mem_append_right _
            (Registry.mem_folded.mpr ⟨owner, howner, hcollection⟩),
          isModuleOf_recordModule registry list, hmembers,
          not_lost_of_collection hwritable howner hrecord hcollection⟩
  · rw [List.mem_singleton.mp hindex]
    exact Or.inl rfl

/-! ## Following the paths -/

theorem isFileName_append_js {name : String} (hname : Path.IsFileName name) :
    Path.IsFileName (name ++ ".js") := by
  have hlong : ∀ short : String, short.toList.length < 3 → name ++ ".js" ≠ short := by
    rintro short hlength rfl
    have hextension : ".js".toList.length = 3 := by decide
    rw [String.toList_append, List.length_append, hextension] at hlength
    omega
  refine ⟨?_, hlong "" (by decide), hlong "." (by decide), hlong ".." (by decide)⟩
  rw [String.toList_append, List.mem_append, not_or]
  exact ⟨hname.1, by decide⟩

theorem locate_of_isModuleOf (hwritable : IsWritable registry) {type : TypeDef} {file : File}
    (hmem : type ∈ registry.allTypes) (hmodule : IsModuleOf type file) :
    Path.locate [] file.path =
      Path.directorySegments type.sourceDir ++ [type.name ++ ".js"] := by
  rw [hmodule.path]
  exact Path.locate_source (hwritable.plain type hmem)
    (isFileName_append_js (hwritable.fileName type hmem))

/-- From the module of a type, a loaded path leads to the place of the loaded type. -/
theorem locate_loaded (hwritable : IsWritable registry) {type target : TypeDef}
    (hmem : type ∈ registry.allTypes) (htarget : target ∈ registry.allTypes) :
    Path.locate (Path.locate [] (recordModule registry type).file.path).dropLast
        (Path.require type.sourceDir target.sourceDir target.name) =
      Path.directorySegments target.sourceDir ++ [target.name] := by
  rw [locate_of_isModuleOf hwritable hmem (isModuleOf_recordModule registry type),
    List.dropLast_concat]
  exact Path.locate_require (hwritable.plain target htarget) (hwritable.fileName target htarget)

theorem isClosedUnderRequire_of_loadsModulesOnly (hwritable : IsWritable registry)
    (hmodules : LoadsModulesOnly registry) :
    IsClosedUnderRequire (.ofRegistry registry readMethod) := by
  intro origin path name hloads
  obtain ⟨type, htype, target, htarget, rfl, rfl, rfl⟩ := loads_ofRegistry_iff.mp hloads
  obtain ⟨⟨owner, howner, hdescribed⟩, -⟩ := mem_constructorTypes.mp htype
  have hmem := mem_allTypes_of_mem_recordTypes howner hdescribed
  have hfound := mem_allTypes_of_mem_loadedTypes htarget
  obtain ⟨hmembers, hkept⟩ := hmodules type htype target htarget
  obtain ⟨file, hfile, hmodule⟩ : ∃ file ∈ serverFiles (.ofRegistry registry readMethod),
      IsModuleOf target file := exists_isModuleOf hfound hmembers hkept
  refine ⟨file, hfile, ⟨Path.directorySegments target.sourceDir, target.name, ?_, ?_⟩,
    hmodule.hasLine⟩
  · exact locate_loaded hwritable hmem hfound
  · exact locate_of_isModuleOf hwritable hfound hmodule

theorem loadsModulesOnly_of_isClosedUnderRequire (hwritable : IsWritable registry)
    (hindex : ∀ type ∈ registry.allTypes, type.name ≠ "index")
    (hclosed : IsClosedUnderRequire (.ofRegistry registry readMethod)) :
    LoadsModulesOnly registry := by
  intro type htype target htarget
  obtain ⟨⟨owner, howner, hdescribed⟩, -⟩ := mem_constructorTypes.mp htype
  have hmem := mem_allTypes_of_mem_recordTypes howner hdescribed
  have hfound := mem_allTypes_of_mem_loadedTypes htarget
  obtain ⟨file, hfile, ⟨place, stem, hpath, hplace⟩, -⟩ :=
    hclosed _ _ _ (loads_ofRegistry_iff.mpr ⟨type, htype, target, htarget, rfl, rfl, rfl⟩)
  rw [locate_loaded hwritable hmem hfound] at hpath
  obtain ⟨rfl, rfl⟩ := List.append_singleton_inj.mp hpath
  rcases isModuleOf_of_mem_serverFiles hwritable hfile with hroot | hother
  · have hlast : Path.locate [] "index.js" = [] ++ ["index" ++ ".js"] := by decide
    rw [hroot, hlast] at hplace
    have hname := (List.append_singleton_inj.mp hplace).2
    rw [String.append_left_inj] at hname
    exact absurd hname.symm (hindex target hfound)
  · obtain ⟨other, hregistered, hmodule, hmembers, hkept⟩ := hother
    rw [locate_of_isModuleOf hwritable hregistered hmodule] at hplace
    have hname := (List.append_singleton_inj.mp hplace).2
    rw [String.append_left_inj] at hname
    rw [← List.inj_on_of_nodup_map hwritable.nodup hregistered hfound hname]
    exact ⟨hmembers, hkept⟩

end RestModel.JavaScript

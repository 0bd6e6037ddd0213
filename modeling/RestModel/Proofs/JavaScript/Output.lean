import Mathlib.Data.List.Basic
import RestModel.Descriptor.OfRegistry
import RestModel.JavaScript.Output

/-!
# The modules of a registry

Each registered type has at most one module of its own and writes at most one more for the list type
folded into it.  An enumeration always has its own module and never writes another one.
-/

namespace RestModel.JavaScript

/-- The server modules of an interface, which are all server files but the index. -/
def moduleList (interface : Interface) : List ServerModule :=
  interface.types.flatMap serverModules

theorem dropLast_serverFiles (interface : Interface) :
    (serverFiles interface).dropLast = (moduleList interface).map ServerModule.file :=
  List.dropLast_concat

/-! ## The modules of a type -/

/-- The module with the constructor of a type. -/
def recordModule (registry : Registry) (type : TypeDef) : ServerModule :=
  .ofType (.ofName type.name) type.sourceDir
    (constructorModule (.ofListType registry type) (.ofType registry type))

/-- The module with the constructor of a type, unless the type has no members. -/
def constructorModules (registry : Registry) (type : TypeDef) : List ServerModule :=
  if type.members.isEmpty then [] else [recordModule registry type]

/-- The module with the members of an enumeration. -/
def enumerationModule (type : TypeDef) : ServerModule :=
  .ofType (.ofName type.name) type.sourceDir (enumerationText (.ofType type) true)

/-- The module that a type has of its own, apart from that of its collection. -/
def ownModules (registry : Registry) (type : TypeDef) : List ServerModule :=
  if type.isEnumeration then [enumerationModule type] else constructorModules registry type

/-- The module that a type writes for its collection. -/
def listModules (registry : Registry) (type : TypeDef) : List ServerModule :=
  if type.isEnumeration then [] else type.collection.toList.flatMap (constructorModules registry)

theorem toList_recordModule? (registry : Registry) (type : TypeDef) :
    (recordModule? (.ofListType registry type)).toList = constructorModules registry type := by
  rw [recordModule?, constructorText?, Record.ofListType, Constructor.ofType?, constructorModules]
  split <;> rfl

theorem serverModules_ofType (registry : Registry) (readMethod : String) (type : TypeDef) :
    serverModules (.ofType registry readMethod type) =
      ownModules registry type ++ listModules registry type := by
  rw [Descriptor.ofType, ownModules, listModules]
  split
  · rfl
  · rw [serverModules, withListType, List.filterMap_eq_flatMap_toList, List.flatMap_cons,
      ← toList_recordModule?]
    congr 1
    cases hcollection : type.collection with
    | none => simp [Record.ofType, hcollection]
    | some list => simp [Record.ofType, hcollection, toList_recordModule?]

theorem moduleList_ofRegistry (registry : Registry) (readMethod : String) :
    moduleList (.ofRegistry registry readMethod) = registry.types.flatMap
      (fun type => ownModules registry type ++ listModules registry type) := by
  rw [moduleList, Interface.ofRegistry, List.flatMap_map]
  apply List.flatMap_congr
  intro type _
  exact serverModules_ofType registry readMethod type

/-! ## The types with a module -/

variable {registry : Registry} {type : TypeDef} {written : ServerModule}

theorem mem_constructorModules : written ∈ constructorModules registry type ↔
    type.members.isEmpty = false ∧ written = recordModule registry type := by
  rw [constructorModules]
  split
  · next hempty => simp [hempty]
  · next hmembers => simp [hmembers]

theorem exists_ownModules (hmembers : type.members.isEmpty = false) :
    ∃ written, ownModules registry type = [written] := by
  rw [ownModules]
  split
  · exact ⟨enumerationModule type, rfl⟩
  · rw [constructorModules, hmembers]
    exact ⟨recordModule registry type, rfl⟩

end RestModel.JavaScript

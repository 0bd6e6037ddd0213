import RestModel.Proofs.JavaScript.Requires
import RestModel.Proofs.Lists

/-!
# The index and the files beside it

The index is the last server file.  It has one line for each of the other files, in their order, and
both come from the types with a module: the enumerations and the records with a constructor, folded
list types included.
-/

namespace RestModel.JavaScript

/-! ## Types with a module -/

/-- A described type and, behind a record, the list type folded into it. -/
def withFolded : Descriptor → List Descriptor
  | .enumeration enumeration => [.enumeration enumeration]
  | .record record => (withListType record).map .record

/-- The described types of an interface, folded list types included. -/
def describedTypes (interface : Interface) : List Descriptor :=
  interface.types.flatMap withFolded

/-- Whether a type is an enumeration or has a constructor. -/
def hasModule : Descriptor → Bool
  | .enumeration _ => true
  | .record record => record.constructor.isSome

/-- The module of a type, if it has one. -/
def moduleOf? : Descriptor → Option ServerModule
  | .enumeration enumeration =>
    some (.ofType enumeration.name enumeration.sourceDir (enumerationText enumeration true))
  | .record record => recordModule? record

theorem serverModules_eq_filterMap (type : Descriptor) :
    serverModules type = (withFolded type).filterMap moduleOf? := by
  cases type with
  | enumeration enumeration => rfl
  | record record =>
      rw [serverModules, withFolded, List.filterMap_map]
      rfl

theorem moduleList_eq_filterMap (interface : Interface) :
    moduleList interface = (describedTypes interface).filterMap moduleOf? := by
  rw [moduleList, describedTypes, List.filterMap_flatMap]
  apply List.flatMap_congr
  intro type _
  exact serverModules_eq_filterMap type

theorem isSome_moduleOf? (type : Descriptor) : (moduleOf? type).isSome = hasModule type := by
  cases type with
  | enumeration enumeration => rfl
  | record record =>
      rw [moduleOf?, recordModule?, constructorText?, Option.isSome_map, Option.isSome_map,
        hasModule]

/-! ## Files and lines -/

/-- The path by which the index loads the file of a type. -/
def indexPath (type : Descriptor) : String :=
  "./" ++ "/".intercalate (Path.directorySegments type.sourceDir ++ [type.name.original])

/-- The line of the index for a type, which exports again what its file exports. -/
def indexLine (type : Descriptor) : String :=
  line ("module.exports." ++ type.name.camelCase ++ " = require('" ++ indexPath type ++ "')." ++
    type.name.camelCase ++ ";")

/-- A file lies where the server file of a type does, and exports the type. -/
structure IsServerFileOf (type : Descriptor) (file : File) : Prop where
  path : file.path = Path.source type.sourceDir (type.name.original ++ ".js")
  exports : ∃ front back, file.content = front ++
    ("module.exports." ++ type.name.camelCase ++ " = " ++ type.name.camelCase ++ ";") ++ back

/-- The module path of a file from the output directory itself. -/
theorem require_root (directory file : String) : Path.require "" directory file =
    "./" ++ "/".intercalate (Path.directorySegments directory ++ [file]) := by
  have hroot : Path.requireSegments (Path.directorySegments "") (Path.directorySegments directory)
      file = "." :: (Path.directorySegments directory ++ [file]) := rfl
  obtain ⟨first, rest, hparts⟩ : ∃ first rest,
      Path.directorySegments directory ++ [file] = first :: rest :=
    List.exists_cons_of_ne_nil (List.append_ne_nil_of_right_ne_nil _ (List.cons_ne_nil file []))
  rw [Path.require, hroot, hparts, Path.ofSegments_cons_cons]
  rfl

theorem text_ofType (type : Descriptor) :
    (IndexEntry.ofType type.name type.sourceDir).text = indexLine type := by
  have hopening : ∀ rest : String, " = require('" ++ rest = " = " ++ ("require('" ++ rest) := by
    intro rest
    rw [← String.append_assoc]
    rfl
  rw [IndexEntry.text, IndexEntry.ofType, requireCall, require_root, indexLine, indexPath]
  simp only [String.append_assoc, hopening]

theorem exists_append_of_hasLine {content text : String} (hline : HasLine content text) :
    ∃ front back, content = front ++ text ++ back := by
  obtain ⟨front, back, rfl⟩ := hline
  refine ⟨line front, "\n" ++ back, ?_⟩
  simp only [line, String.append_assoc]

theorem isServerFileOf_file {type : Descriptor} {written : ServerModule}
    (hwritten : moduleOf? type = some written) : IsServerFileOf type written.file := by
  cases type with
  | enumeration enumeration =>
      injection hwritten with hwritten
      subst hwritten
      exact ⟨rfl, exists_append_of_hasLine (hasLine_exportStatement_enumerationText enumeration)⟩
  | record record =>
      obtain ⟨content, htext, rfl⟩ := Option.map_eq_some_iff.mp hwritten
      obtain ⟨constructor, -, rfl⟩ := Option.map_eq_some_iff.mp htext
      exact ⟨rfl, exists_append_of_hasLine
        (hasLine_exportStatement_constructorModule record constructor)⟩

theorem text_entry {type : Descriptor} {written : ServerModule}
    (hwritten : moduleOf? type = some written) : written.entry.text = indexLine type := by
  rw [← text_ofType]
  cases type with
  | enumeration enumeration =>
      injection hwritten with hwritten
      rw [← hwritten]
      rfl
  | record record =>
      obtain ⟨content, -, rfl⟩ := Option.map_eq_some_iff.mp hwritten
      rfl

/-! ## Files and lines in step -/

theorem forall₂_filterMap_moduleOf? (types : List Descriptor) :
    List.Forall₂ (fun type written => moduleOf? type = some written)
      (types.filter hasModule) (types.filterMap moduleOf?) := by
  rw [show hasModule = fun type => (moduleOf? type).isSome from
    funext fun type => (isSome_moduleOf? type).symm]
  exact forall₂_filter_filterMap moduleOf? types

theorem indexText_eq_join {types : List Descriptor} {modules : List ServerModule}
    (hmodules : List.Forall₂ (fun type written => moduleOf? type = some written) types modules) :
    indexText (modules.map ServerModule.entry) = String.join (types.map indexLine) ++ "\n" := by
  have hlines : block ((modules.map ServerModule.entry).map IndexEntry.text) =
      String.join (types.map indexLine) := by
    induction hmodules with
    | nil => rfl
    | cons hwritten _ ih =>
        rw [List.map_cons, List.map_cons, block_cons, ih, List.map_cons, String.join_cons,
          text_entry hwritten]
  rw [indexText, block_cons, hlines, block_cons, block_nil]
  rfl

/-- The index comes last and matches the other files one to one: the enumerations and the records
with a constructor have a file each, and the index has the line of each of them in the same
order. -/
theorem serverFiles_match_index (interface : Interface) : ∃ files,
    serverFiles interface = files ++ [⟨"index.js",
      String.join (((describedTypes interface).filter hasModule).map indexLine) ++ "\n"⟩] ∧
    List.Forall₂ IsServerFileOf ((describedTypes interface).filter hasModule) files := by
  have hmodules := forall₂_filterMap_moduleOf? (describedTypes interface)
  rw [← moduleList_eq_filterMap] at hmodules
  refine ⟨(moduleList interface).map ServerModule.file, ?_, ?_⟩
  · rw [← indexText_eq_join hmodules]
    rfl
  · rw [List.forall₂_map_right_iff]
    exact hmodules.imp fun _ _ => isServerFileOf_file

end RestModel.JavaScript

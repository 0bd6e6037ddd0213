import RestModel.Loading
import RestModel.Proofs.FileTree

/-!
# Broken documents

A document is broken if its file holds no text, no XML, or a root element of another kind of
documents.  Exactly the broken documents are skipped.  Without their files the same documents are
loaded in the same order, and none is skipped.
-/

namespace RestModel

/-- Whether the content of a file is no document of the kind. -/
def DocumentKind.rejects (kind : DocumentKind) (content : ByteArray) : Bool :=
  match String.fromUTF8? content with
  | none => true
  | some text =>
    match Xml.parse text with
    | .error _ => true
    | .ok root => root.localName != kind.rootName

namespace Discovery

/-- The kind of document that the name of a file below a directory announces. -/
def kindBelow? (rootPlace place : Location) : Option DocumentKind := do
  let below ← rootPlace.isPrefixOf? place
  let fileName ← below.getLast?
  let (_, extension) ← Path.splitExtension? fileName
  DocumentKind.ofExtension? extension

/-- Whether a file below a directory is a broken document. -/
def isBroken (rootPlace : Location) (file : Location × ByteArray) : Bool :=
  (kindBelow? rootPlace file.1).any (·.rejects file.2)

/-- The places of the broken documents below a directory. -/
def brokenPlaces (tree : FileTree) (rootPlace : Location) : List Location :=
  (tree.files.filter (isBroken rootPlace)).map Prod.fst

/-- The tree without the broken documents below a directory. -/
def withoutBroken (tree : FileTree) (rootPlace : Location) : FileTree :=
  tree.deleteFiles (brokenPlaces tree rootPlace).contains

variable {tree : FileTree} {root : String} {rootPlace place : Location} {content : ByteArray}

theorem contains_brokenPlaces (hmem : (place, content) ∈ tree.files) :
    (brokenPlaces tree rootPlace).contains place = isBroken rootPlace (place, content) := by
  rw [Bool.eq_iff_iff, List.contains_iff_mem, brokenPlaces, List.mem_map]
  constructor
  · rintro ⟨⟨other, found⟩, hbroken, rfl⟩
    obtain ⟨hfound, hbroken⟩ := List.mem_filter.mp hbroken
    have hsame : Entry.file found = .file content :=
      OrderedMap.eq_of_mem_entries (FileTree.mem_files.mp hfound) (FileTree.mem_files.mp hmem)
    injection hsame with hbytes
    rwa [← hbytes]
  · intro hbroken
    exact ⟨_, List.mem_filter.mpr ⟨hmem, hbroken⟩, rfl⟩

theorem files_withoutBroken (tree : FileTree) (rootPlace : Location) :
    (withoutBroken tree rootPlace).files = tree.files.filter (!isBroken rootPlace ·) := by
  rw [withoutBroken, FileTree.files_deleteFiles]
  apply List.filter_congr
  rintro ⟨place, content⟩ hmem
  rw [contains_brokenPlaces hmem]

/-- The document in a file, if it lies below the root directory and its name announces one. -/
def documentAt? (root : String) (rootPlace : Location) (file : Location × ByteArray) :
    Option DocumentFile :=
  (rootPlace.isPrefixOf? file.1).bind (document? root rootPlace)

theorem place_document? {below : List String} {file : DocumentFile}
    (hfile : document? root rootPlace below = some file) :
    file.place = rootPlace ++ below ∧ below ≠ [] := by
  simp only [document?, Option.bind_eq_bind, Option.bind_eq_some_iff] at hfile
  obtain ⟨fileName, hlast, named, -, kind, -, hfile⟩ := hfile
  injection hfile with hfile
  refine ⟨hfile ▸ rfl, ?_⟩
  rintro rfl
  exact absurd hlast (by simp)

theorem map_kind_documentAt? (root : String) (rootPlace : Location)
    (file : Location × ByteArray) :
    (documentAt? root rootPlace file).map DocumentFile.kind = kindBelow? rootPlace file.1 := by
  rw [documentAt?, kindBelow?, Option.map_bind]
  congr 1
  funext below
  rw [Function.comp_apply, document?]
  simp only [Option.bind_eq_bind, Option.map_bind, Function.comp_def, Option.pure_def,
    Option.map_some, Option.bind_fun_some]

theorem place_documentAt? {file : DocumentFile}
    (hfile : documentAt? root rootPlace (place, content) = some file) :
    file.place = place ∧ place ≠ [] := by
  obtain ⟨below, hbelow, hdocument⟩ := Option.bind_eq_some_iff.mp hfile
  obtain ⟨hplace, hsome⟩ := place_document? hdocument
  have hwhole : rootPlace ++ below = place := List.isPrefixOf?_eq_some_iff_append_eq.mp hbelow
  rw [hplace, hwhole]
  refine ⟨rfl, ?_⟩
  rintro rfl
  exact hsome (List.append_eq_nil_iff.mp hwhole).2

end Discovery

namespace DocumentFile

variable {tree other : FileTree} {file : DocumentFile} {content : ByteArray}

/-- Reading a document fails exactly if its content is rejected. -/
theorem isSome_load (hread : tree.read file.place = .ok content) :
    (file.load tree).toOption.isSome = !file.kind.rejects content := by
  rw [load, FileTree.readText, hread, DocumentKind.rejects]
  simp only [bind, Except.bind]
  cases String.fromUTF8? content with
  | none => rfl
  | some text =>
      simp only [pure, Except.pure, Except.mapError, DocumentKind.parse, bind, Except.bind]
      cases Xml.parse text with
      | error _ => rfl
      | ok root =>
          by_cases hroot : root.localName = file.kind.rootName
          · simp [hroot, Except.toOption]
          · simp [hroot, throw, throwThe, MonadExceptOf.throw, Except.toOption]

theorem load_congr (hsame : tree.read file.place = other.read file.place) :
    file.load tree = file.load other := by
  rw [load, load, FileTree.readText, FileTree.readText, hsame]

end DocumentFile

namespace LoadedDocuments

open Discovery

/-- The failure of a file, if it holds a document that cannot be loaded. -/
def failure? (tree : FileTree) (file : DocumentFile) : Option DocumentFailure :=
  match file.load tree with
  | .ok _ => none
  | .error failure => some failure

variable {tree : FileTree} {root : String} {rootPlace : Location}

theorem documents_ofRoot : (ofRoot tree root rootPlace).documents =
    tree.files.filterMap (fun file =>
      (documentAt? root rootPlace file).bind (fun found => (found.load tree).toOption)) := by
  change (tree.files.filterMap (documentAt? root rootPlace)).filterMap _ = _
  rw [List.filterMap_filterMap]

theorem failures_ofRoot : (ofRoot tree root rootPlace).failures =
    tree.files.filterMap (fun file =>
      (documentAt? root rootPlace file).bind (failure? tree)) := by
  change (tree.files.filterMap (documentAt? root rootPlace)).filterMap (failure? tree) = _
  rw [List.filterMap_filterMap]

/-- What is loaded from a listed file depends on its content only. -/
theorem isSome_load_of_mem {file : Location × ByteArray} {found : DocumentFile}
    (hmem : file ∈ tree.files) (hfound : documentAt? root rootPlace file = some found) :
    (found.load tree).toOption.isSome = !isBroken rootPlace file := by
  obtain ⟨place, content⟩ := file
  obtain ⟨hplace, hsome⟩ := place_documentAt? hfound
  have hkind : kindBelow? rootPlace place = some found.kind := by
    rw [← map_kind_documentAt? root rootPlace (place, content), hfound]
    rfl
  have hread : tree.read found.place = .ok content := by
    rw [hplace]
    exact FileTree.read_of_mem_files hmem hsome
  rw [DocumentFile.isSome_load hread, isBroken, hkind]
  rfl

theorem load_withoutBroken {file : Location × ByteArray} {found : DocumentFile}
    (hmem : file ∈ tree.files) (hkept : isBroken rootPlace file = false)
    (hfound : documentAt? root rootPlace file = some found) :
    found.load (withoutBroken tree rootPlace) = found.load tree := by
  obtain ⟨place, content⟩ := file
  apply DocumentFile.load_congr
  rw [(place_documentAt? hfound).1]
  apply FileTree.read_deleteFiles
  rw [contains_brokenPlaces hmem, hkept]

theorem documents_withoutBroken (tree : FileTree) (root : String) (rootPlace : Location) :
    (ofRoot (withoutBroken tree rootPlace) root rootPlace).documents =
      (ofRoot tree root rootPlace).documents := by
  rw [documents_ofRoot, documents_ofRoot, files_withoutBroken, List.filterMap_filter]
  apply List.filterMap_congr
  intro file hmem
  cases hfound : documentAt? root rootPlace file with
  | none => simp
  | some found =>
      have hloaded : (found.load tree).toOption.isSome = !isBroken rootPlace file :=
        isSome_load_of_mem hmem hfound
      cases hbroken : isBroken rootPlace file with
      | true =>
          rw [hbroken, Bool.not_true, Option.isSome_eq_false_iff, Option.isNone_iff_eq_none]
            at hloaded
          simp [hloaded]
      | false => simp [load_withoutBroken hmem hbroken hfound]

theorem isSome_failure? (tree : FileTree) (file : DocumentFile) :
    (failure? tree file).isSome = !(file.load tree).toOption.isSome := by
  rw [failure?]
  cases file.load tree <;> rfl

/-- Each broken document is skipped, and no other document is. -/
theorem isSome_bind_failure? {file : Location × ByteArray} (hmem : file ∈ tree.files) :
    ((documentAt? root rootPlace file).bind (failure? tree)).isSome = isBroken rootPlace file := by
  cases hfound : documentAt? root rootPlace file with
  | none =>
      have hkind := map_kind_documentAt? root rootPlace file
      rw [hfound, Option.map_none] at hkind
      rw [isBroken, ← hkind]
      rfl
  | some found => rw [Option.bind_some, isSome_failure?, isSome_load_of_mem hmem hfound,
      Bool.not_not]

theorem length_failures_ofRoot (tree : FileTree) (root : String) (rootPlace : Location) :
    (ofRoot tree root rootPlace).failures.length = (brokenPlaces tree rootPlace).length := by
  rw [failures_ofRoot, List.length_filterMap_eq_countP, brokenPlaces, List.length_map,
    ← List.countP_eq_length_filter]
  apply List.countP_congr
  intro file hmem
  rw [isSome_bind_failure? hmem]

theorem brokenPlaces_withoutBroken (tree : FileTree) (rootPlace : Location) :
    brokenPlaces (withoutBroken tree rootPlace) rootPlace = [] := by
  rw [brokenPlaces, files_withoutBroken, List.filter_filter]
  simp

theorem failures_withoutBroken (tree : FileTree) (root : String) (rootPlace : Location) :
    (ofRoot (withoutBroken tree rootPlace) root rootPlace).failures = [] := by
  apply List.eq_nil_of_length_eq_zero
  rw [length_failures_ofRoot, brokenPlaces_withoutBroken, List.length_nil]

end LoadedDocuments

end RestModel

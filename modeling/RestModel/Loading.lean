import RestModel.Discovery

/-!
# Loading documents

Each document below a root directory is read on its own.  A document that cannot be read, or is not
of its kind, is skipped, and the others are kept in their order.
-/

namespace RestModel

/-- Why a document is skipped. -/
inductive DocumentFailure where
  | unreadable (path : String) (cause : SystemError)
  | invalid (path : String) (cause : Xml.DocumentError)
  deriving DecidableEq

/-- The text of a document failure with everything that led to it. -/
def DocumentFailure.message : DocumentFailure → String
  | unreadable path cause => "failed to read " ++ path ++ ": " ++ cause.message
  | invalid path cause =>
    "failed to parse " ++ path ++ ": " ++ ": ".intercalate (cause.message :: cause.causes)

/-- Read the document in a file. -/
def DocumentFile.load (tree : FileTree) (file : DocumentFile) :
    Except DocumentFailure SourceDocument := do
  let text ← (tree.readText file.place).mapError (.unreadable file.path)
  let root ← (file.kind.parse text).mapError (.invalid file.path)
  return ⟨file.path, file.name, file.sourceDir, file.kind, root⟩

/-- The documents of a root directory. -/
structure LoadedDocuments where
  documents : List SourceDocument
  /-- Why documents were skipped. -/
  failures : List DocumentFailure

namespace LoadedDocuments

/-- Load the documents in files. -/
def ofFiles (tree : FileTree) (files : List DocumentFile) : LoadedDocuments where
  documents := files.filterMap (fun file => (file.load tree).toOption)
  failures := files.filterMap (fun file =>
    match file.load tree with
    | .ok _ => none
    | .error failure => some failure)

/-- Load the documents below a root directory. -/
def ofRoot (tree : FileTree) (root : String) (rootPlace : Location) : LoadedDocuments :=
  ofFiles tree (Discovery.documents tree root rootPlace)

end LoadedDocuments

end RestModel

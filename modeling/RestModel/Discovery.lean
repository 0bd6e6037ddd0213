import RestModel.Document
import RestModel.FileTree
import RestModel.Path.File

/-!
# Finding documents

Documents are the files below a root directory whose extension names a kind of documents, in the
order in which the directories list them.
-/

namespace RestModel

/-- A file that holds a document. -/
structure DocumentFile where
  place : Location
  /-- The path as shown in messages. -/
  path : String
  kind : DocumentKind
  /-- The file name without its extension. -/
  name : String
  /-- The directory of the file relative to the root. -/
  sourceDir : String

namespace Discovery

/-- The document in a file below a root directory, given the names on the way from the root. -/
def document? (root : String) (rootPlace : Location) (below : List String) :
    Option DocumentFile := do
  let fileName ← below.getLast?
  let (name, extension) ← Path.splitExtension? fileName
  let kind ← DocumentKind.ofExtension? extension
  return {
    place := rootPlace ++ below
    path := Path.join root (Path.ofSegments below)
    kind := kind
    name := name
    sourceDir := Path.ofSegments below.dropLast }

/-- The documents below the root directory at a place. -/
def documents (tree : FileTree) (root : String) (rootPlace : Location) : List DocumentFile :=
  tree.files.filterMap (fun (place, _) =>
    (rootPlace.isPrefixOf? place).bind (document? root rootPlace))

end Discovery

end RestModel

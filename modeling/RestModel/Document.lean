import RestModel.Xml.Document

/-!
# Source documents

Two kinds of documents describe an interface.  Schemas declare types; resource descriptions tell on
which paths these types travel.
-/

namespace RestModel

/-- The kind of a document. -/
inductive DocumentKind where
  | schema
  | resource
  deriving DecidableEq

namespace DocumentKind

/-- The kind of the files with an extension. -/
def ofExtension? : String → Option DocumentKind
  | "xsd" => some schema
  | "wadl" => some resource
  | _ => none

/-- The local name of the root element of a document of that kind. -/
def rootName : DocumentKind → String
  | schema => "schema"
  | resource => "application"

end DocumentKind

/-- Read the root element of a document and check that it is the one its kind asks for. -/
def DocumentKind.parse (kind : DocumentKind) (text : String) :
    Except Xml.DocumentError Xml.Element := do
  let root ← Xml.parse text
  if root.localName = kind.rootName then return root
  else throw (.unexpectedRoot kind.rootName root.name)

/-- A document that was read. -/
structure SourceDocument where
  /-- The path of the document as shown in diagnostics. -/
  path : String
  /-- The file name without extension; it marks the types of foreign namespaces. -/
  name : String
  /-- The directory of the document relative to the input root. -/
  sourceDir : String
  kind : DocumentKind
  root : Xml.Element

end RestModel

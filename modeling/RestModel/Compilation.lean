import RestModel.Descriptor.OfRegistry
import RestModel.Document
import RestModel.Options
import RestModel.Registry.Folding
import RestModel.Registry.Resolution
import RestModel.Resource.Annotation
import RestModel.Schema.Extraction

/-!
# Compilation

Documents become descriptors in five stages: the types of all schemas are registered, the methods of
all resource descriptions are declared on them, references are resolved, list types are folded, and
what remains is described.  Every schema is read before any resource description, so that the order
of the two kinds does not matter.
-/

namespace RestModel

/-- The counts of one compilation. -/
structure Stats where
  schemas : Nat
  resources : Nat
  types : Nat
  annotations : Nat
  unresolvedReferences : Nat
  collections : Nat
  deriving DecidableEq

/-- The outcome of a compilation. -/
structure Compilation where
  /-- The registry with references resolved and list types folded. -/
  registry : Registry
  interface : Interface
  stats : Stats

namespace Compilation

/-- The documents of one kind, in order. -/
def ofKind (kind : DocumentKind) (documents : List SourceDocument) : List SourceDocument :=
  documents.filter (·.kind == kind)

/-- The types that one schema document registers. -/
def documentTypes (home : String) (document : SourceDocument) : List TypeDef :=
  (Schema.types document.root document.name home).map
    (fun type => { type with sourceDir := document.sourceDir })

/-- The registry of the types of all schema documents. -/
def register (home : String) (documents : List SourceDocument) : Registry :=
  (ofKind .schema documents).foldl
    (fun registry document => registry.insertAll (documentTypes home document)) .empty

/-- What the walk over resource documents has produced so far. -/
structure Annotated where
  registry : Registry
  annotations : Nat
  diagnostics : List Diagnostic

/-- Walk one resource document. -/
def annotateDocument (statuses : List String) (before : Annotated) (document : SourceDocument) :
    Annotated :=
  let after := Resource.collect before.registry statuses document.root
  { registry := after.registry
    annotations := before.annotations + after.report.annotated
    diagnostics := before.diagnostics ++
      after.report.unregistered.map
        (fun (path, element) => .unregisteredReference document.path path element) }

/-- Walk all resource documents in order. -/
def annotate (statuses : List String) (documents : List SourceDocument) (registry : Registry) :
    Annotated :=
  (ofKind .resource documents).foldl (annotateDocument statuses) ⟨registry, 0, []⟩

/-- Compile documents. -/
def ofDocuments (options : Options) (documents : List SourceDocument) : Compilation :=
  let registered := register options.naming.homeNamespace documents
  let annotated := annotate options.methods.successStatuses documents registered
  let resolved := annotated.registry.resolve
  let registry := resolved.foldLists options.naming.listSuffix options.methods.readMethod
  let interface := Interface.ofRegistry registry options.methods.readMethod
  { registry := registry
    interface :=
      { interface with diagnostics := annotated.diagnostics ++ interface.diagnostics }
    stats :=
      { schemas := (ofKind .schema documents).length
        resources := (ofKind .resource documents).length
        types := registry.size
        annotations := annotated.annotations
        unresolvedReferences := annotated.registry.danglingCount
        collections := registry.folded.length } }

end Compilation

end RestModel

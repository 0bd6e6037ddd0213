import RestModel.Compilation
import RestModel.Report.Value

/-!
# Inspecting a compilation

The report on a compilation shows its counts, its types with their members and paths, and its
diagnostics.  The fields of every record are in the order of their names.
-/

namespace RestModel

open Report

/-- The report on a diagnostic. -/
def Diagnostic.report : Diagnostic → Value
  | suffixCollision collision => .record [
      ("first_path", .text collision.firstPath),
      ("kind", .text "suffix_collision"),
      ("second_path", .text collision.secondPath),
      ("suffix", .text collision.suffix),
      ("type_name", .text collision.typeName)]
  | unregisteredReference document path element => .record [
      ("document", .text document),
      ("element", .text element),
      ("kind", .text "unregistered_reference"),
      ("path", .text path)]

/-- The report on the counts of a compilation. -/
def Stats.report (stats : Stats) : Value :=
  .record [
    ("annotations", .count stats.annotations),
    ("collections", .count stats.collections),
    ("resources", .count stats.resources),
    ("schemas", .count stats.schemas),
    ("types", .count stats.types),
    ("unresolved_references", .count stats.unresolvedReferences)]

/-- The report on an endpoint. -/
def Endpoint.report (endpoint : Endpoint) : Value :=
  .record [("path", .text endpoint.path), ("suffix", .text endpoint.suffix)]

/-- The report on a path with its methods. -/
def PathMethods.report (declared : PathMethods) : Value :=
  .record [("methods", .texts declared.methods), ("path", .text declared.path)]

/-- The report on the collection of a record. -/
def Collection.report (collection : Collection Record) : Value :=
  .record [
    ("endpoints", .list (collection.endpoints.map Endpoint.report)),
    ("list", .text collection.list.name.original)]

/-- The report on an enumeration. -/
def Enumeration.report (enumeration : Enumeration) : Value :=
  .record [
    ("kind", .text "enum"),
    ("name", .text enumeration.name.original),
    ("source_dir", .text enumeration.sourceDir),
    ("values", .texts (enumeration.variants.map Variant.value))]

/-- The report on a record. -/
def Record.report (record : Record) : Value :=
  .record [
    ("collection", .optional Collection.report record.collection),
    ("kind", .text "record"),
    ("members", .optional
      (fun (constructor : Constructor) =>
        .texts (constructor.fields.map (fun field => field.name.original)))
      record.constructor),
    ("name", .text record.name.original),
    ("paths", .optional
      (fun (model : Model) => .list (model.paths.map PathMethods.report)) record.model),
    ("source_dir", .text record.sourceDir),
    ("url", .optional (fun (model : Model) => .text model.url) record.model)]

/-- The report on a described type. -/
def Descriptor.report : Descriptor → Value
  | enumeration described => described.report
  | record described => described.report

/-- The report on a compilation. -/
def Compilation.report (compilation : Compilation) : Value :=
  .record [
    ("diagnostics", .list (compilation.interface.diagnostics.map Diagnostic.report)),
    ("stats", compilation.stats.report),
    ("types", .list (compilation.interface.types.map Descriptor.report))]

end RestModel

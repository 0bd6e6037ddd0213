import RestModel.Text.Hanging

/-!
# Notices

What the program tells about its work, besides its results.  A notice has a level and the part of
the program it comes from.
-/

namespace RestModel

/-- How important a notice is, from the most important level on. -/
inductive NoticeLevel where
  | error
  | warn
  | info
  | debug
  | trace
  deriving DecidableEq

namespace NoticeLevel

/-- The place of a level among the levels. -/
def rank : NoticeLevel → Nat
  | error => 1
  | warn => 2
  | info => 3
  | debug => 4
  | trace => 5

/-- The name of a level in a line. -/
def label : NoticeLevel → String
  | error => "ERROR"
  | warn => "WARN"
  | info => "INFO"
  | debug => "DEBUG"
  | trace => "TRACE"

end NoticeLevel

/-- The notices that are shown: none, or those down to a level. -/
abbrev NoticeFilter := Option NoticeLevel

/-- The filter with a name, in letters of either case.  The empty name shows errors, and any other
name nothing. -/
def NoticeFilter.ofName (name : String) : NoticeFilter :=
  match String.ofList (name.toList.map Char.toLower) with
  | "" => some .error
  | "error" => some .error
  | "warn" => some .warn
  | "info" => some .info
  | "debug" => some .debug
  | "trace" => some .trace
  | _ => none

/-- The part of the program that a notice comes from. -/
inductive NoticeSource where
  | schema
  | resource
  | registry
  | collections
  | endpoints
  | descriptors
  | compilation
  | generator
  | command
  deriving DecidableEq

/-- The name of a source in a line. -/
def NoticeSource.label : NoticeSource → String
  | schema => "wadlgen_core::parse::xsd"
  | resource => "wadlgen_core::parse::wadl"
  | registry => "wadlgen_core::registry"
  | collections => "wadlgen_core::transform::collections"
  | endpoints => "wadlgen_core::transform::path_uniquifier"
  | descriptors => "wadlgen_core::transform::registry_to_ir"
  | compilation => "wadlgen_core::transform::compile"
  | generator => "wadlgen_js::generator"
  | command => "wadlgen"

/-- Something that the program tells. -/
structure Notice where
  level : NoticeLevel
  source : NoticeSource
  text : String
  deriving DecidableEq

namespace Notice

/-- Whether the filter shows the notice. -/
def isShown (filter : NoticeFilter) (notice : Notice) : Bool :=
  match filter with
  | none => false
  | some level => notice.level.rank ≤ level.rank

/-- The notice as a line. -/
def line (notice : Notice) : String :=
  "[" ++ notice.level.label ++ " " ++ notice.source.label ++ "] " ++ Text.hang notice.text

end Notice

end RestModel

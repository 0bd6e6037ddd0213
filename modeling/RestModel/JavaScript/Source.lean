import RestModel.Descriptor.Basic
import RestModel.Path.Module

/-!
# Pieces of generated code

Generated code is put together from lines, and files name each other by module paths.
-/

namespace RestModel.JavaScript

/-- A generated file: its path below the output directory and its text. -/
structure File where
  path : String
  content : String
  deriving DecidableEq

/-- A line with its line end. -/
def line (text : String) : String :=
  text ++ "\n"

/-- The text of several lines or longer pieces. -/
def block (pieces : List String) : String :=
  "".intercalate pieces

/-- A piece that stands only under a condition. -/
def onlyIf (condition : Bool) (piece : String) : String :=
  if condition then piece else ""

/-- The call that loads what a file exports under a name. -/
def requireCall (path name : String) : String :=
  "require('" ++ path ++ "')." ++ name

/-- The statement by which a file of the directory `origin` loads a linked type. -/
def requireStatement (origin : String) (link : TypeLink) : String :=
  "var " ++ link.name.camelCase ++ " = " ++
    requireCall (Path.require origin link.sourceDir link.name.original) link.name.camelCase ++ ";"

/-- The statement that makes a module object exist. -/
def moduleStatement : String :=
  "module = module || \x7bexports: \x7b\x7d\x7d;"

/-- The statement that exports a name. -/
def exportStatement (name : String) : String :=
  "module.exports." ++ name ++ " = " ++ name ++ ";"

end RestModel.JavaScript

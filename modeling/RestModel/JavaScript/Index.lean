import RestModel.JavaScript.Source

/-!
# The index

One module exports again what all the others export.
-/

namespace RestModel.JavaScript

/-- A type of the index: its name in code, and the path of its module from the output directory. -/
structure IndexEntry where
  name : String
  path : String
  deriving DecidableEq

/-- The entry of a described type. -/
def IndexEntry.ofType (name : Identifier) (sourceDir : String) : IndexEntry :=
  ⟨name.camelCase, Path.require "" sourceDir name.original⟩

/-- The line that exports a type again. -/
def IndexEntry.text (entry : IndexEntry) : String :=
  line ("module.exports." ++ entry.name ++ " = " ++ requireCall entry.path entry.name ++ ";")

/-- The text of the index. -/
def indexText (entries : List IndexEntry) : String :=
  block [block (entries.map IndexEntry.text), line ""]

end RestModel.JavaScript

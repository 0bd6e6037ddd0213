import RestModel.FileTree
import RestModel.Options.Decode

/-!
# The options of a project

A project keeps its options in a file of the working directory.  Without that file it has none; a
file that cannot be read or that states no options is an error.
-/

namespace RestModel.Options

/-- The name of the file with the options of a project. -/
def fileName : String := ".wadlgen.yaml"

/-- Why the options of a project cannot be read. -/
inductive FileError where
  | unreadable (cause : SystemError)
  | invalid (cause : Yaml.DecodeError)
  deriving DecidableEq

namespace FileError

/-- The text of what is behind a file error. -/
def reason : FileError → String
  | unreadable cause => cause.message
  | invalid cause => cause.message

/-- The text of a file error. -/
def message (error : FileError) : String :=
  let failed :=
    match error with
    | unreadable _ => "failed to read config "
    | invalid _ => "failed to parse config "
  failed ++ fileName ++ ": " ++ error.reason

end FileError

/-- The options of the project in a working directory, if it states any. -/
def ofTree? (tree : FileTree) : Except FileError (Option Options) :=
  if (tree.get? [fileName]).isNone then .ok none
  else do
    let text ← (tree.readText [fileName]).mapError .unreadable
    let options ← (ofText text).mapError .invalid
    return some options

end RestModel.Options

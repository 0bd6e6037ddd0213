/-!
# File paths

The path of a file is the path of its directory followed by its name, and the name may end in an
extension.
-/

namespace RestModel.Path

/-- A file name divided at its last dot.  A dot in front does not begin an extension. -/
def splitExtension? (name : String) : Option (String × String) :=
  let reversed := name.toList.reverse
  let extension := (reversed.takeWhile (· != '.')).reverse
  match (reversed.dropWhile (· != '.')).tail with
  | [] => none
  | stem => some (String.ofList stem.reverse, String.ofList extension)

/-- The path of something below a directory. -/
def join (directory path : String) : String :=
  if path.toList.head? = some '/' ∨ directory = "" then path
  else if directory.toList.getLast? = some '/' then directory ++ path
  else directory ++ "/" ++ path

/-- A path backwards, without the slashes at its end and the segments there that stay in place. -/
def dropTrailing : List Char → List Char
  | '/' :: rest => dropTrailing rest
  | '.' :: '/' :: rest => dropTrailing rest
  | path => path

/-- The path of the directory that holds a file; for a mere file name it is empty. -/
def parent (path : String) : String :=
  String.ofList (dropTrailing (path.toList.reverse.dropWhile (· != '/'))).reverse

end RestModel.Path

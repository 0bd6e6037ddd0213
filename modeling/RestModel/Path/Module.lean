/-!
# Module paths

Generated files lie in the directories of the documents that declared their types.  A file names
another one by a path relative to its own directory, which starts with `./` or `../`.
-/

namespace RestModel.Path

/-- The segments of a path between its slashes, empty ones included. -/
def segments (path : String) : List String :=
  (path.toList.splitOn '/').map String.ofList

/-- Write segments as one path. -/
def ofSegments (parts : List String) : String :=
  "/".intercalate parts

/-- The segments of a directory; empty segments do not count. -/
def directorySegments (directory : String) : List String :=
  (segments directory).filter (· != "")

/-- The number of leading elements that two lists have in common. -/
def sharedLength [DecidableEq α] : List α → List α → Nat
  | left :: leftRest, right :: rightRest =>
    if left = right then sharedLength leftRest rightRest + 1 else 0
  | _, _ => 0

/-- The path of a file in a directory; the empty directory is the root. -/
def source (directory file : String) : String :=
  if directory = "" then file else directory ++ "/" ++ file

/-- The segments of the path by which a file in the directory `origin` names the file `file` of the
directory `target`. -/
def requireSegments (origin target : List String) (file : String) : List String :=
  let shared := sharedLength origin target
  let climb := List.replicate (origin.length - shared) ".."
  (if climb.isEmpty then ["."] else climb) ++ target.drop shared ++ [file]

/-- The path by which a file in the directory `origin` names the file `file` of the directory
`target`, both given relative to the same root. -/
def require (origin target file : String) : String :=
  ofSegments (requireSegments (directorySegments origin) (directorySegments target) file)

end RestModel.Path

import RestModel.OrderedMap
import RestModel.Path.Module

/-!
# File trees

The files and directories below a working directory.  A path is walked segment by segment, and every
segment but the last has to be a directory; `.` stays and `..` goes up, but not above the working
directory.  Paths that begin with a slash lead out of the tree.  No path holds a NUL, and paths and
the names in them have a greatest length.
-/

namespace RestModel

/-- A place below the working directory: the names on the way to it. -/
abbrev Location := List String

/-- What stands at a place. -/
inductive Entry where
  | file (content : ByteArray)
  | directory

/-- Why an operation on files fails. -/
inductive SystemError where
  | notFound
  | fileExists
  | notDirectory
  | isDirectory
  | invalidText
  | nameTooLong
  | nulInName
  deriving DecidableEq

/-- The text of a system error. -/
def SystemError.message : SystemError → String
  | notFound => "No such file or directory (os error 2)"
  | fileExists => "File exists (os error 17)"
  | notDirectory => "Not a directory (os error 20)"
  | isDirectory => "Is a directory (os error 21)"
  | invalidText => "stream did not contain valid UTF-8"
  | nameTooLong => "File name too long (os error 36)"
  | nulInName => "file name contained an unexpected NUL byte"

/-- The files and directories below a working directory. -/
structure FileTree where
  entries : OrderedMap Location Entry

namespace FileTree

/-- The empty working directory. -/
def empty : FileTree :=
  ⟨.empty⟩

/-- What stands at a place; the working directory itself is a directory. -/
def get? (tree : FileTree) (place : Location) : Option Entry :=
  if place.isEmpty then some .directory else tree.entries.get? place

/-- The tree with something at a place. -/
def set (tree : FileTree) (place : Location) (entry : Entry) : FileTree :=
  ⟨tree.entries.insert place entry⟩

/-- Check that a directory stands at a place. -/
def checkDirectory (tree : FileTree) (place : Location) : Except SystemError Unit :=
  match tree.get? place with
  | some .directory => .ok ()
  | some (.file _) => .error .notDirectory
  | none => .error .notFound

/-- The greatest number of bytes of a name. -/
def longestName : Nat :=
  255

/-- The greatest number of bytes of a path. -/
def longestPath : Nat :=
  4095

/-- Walk from a place along segments. -/
def walk (tree : FileTree) (place : Location) : List String → Except SystemError Location
  | [] => .ok place
  | segment :: rest =>
    match tree.checkDirectory place with
    | .error cause => .error cause
    | .ok () =>
      if segment = "." then walk tree place rest
      else if segment = ".." then walk tree place.dropLast rest
      else if longestName < segment.utf8ByteSize then .error .nameTooLong
      else walk tree (place ++ [segment]) rest

/-- The segments of a path that lies below the working directory. -/
def pathSegments (path : String) : Except SystemError (List String) :=
  if path.toList.contains '\x00' then .error .nulInName
  else if longestPath < path.utf8ByteSize then .error .nameTooLong
  else if path = "" ∨ path.toList.head? = some '/' then .error .notFound
  else .ok (Path.directorySegments path)

/-- Whether a directory stands at the end of some segments. -/
def isDirectoryAt (tree : FileTree) (parts : List String) : Bool :=
  match tree.walk [] parts with
  | .ok place => (tree.checkDirectory place).isOk
  | .error _ => false

/-- The place of the directory that a path names. -/
def directory? (tree : FileTree) (path : String) : Option Location :=
  match pathSegments path >>= tree.walk [] with
  | .ok place => if (tree.checkDirectory place).isOk then some place else none
  | .error _ => none

/-- The content of the file at a place. -/
def read (tree : FileTree) (place : Location) : Except SystemError ByteArray :=
  match tree.get? place with
  | some (.file content) => .ok content
  | some .directory => .error .isDirectory
  | none => .error .notFound

/-- The content of the file at a place as text. -/
def readText (tree : FileTree) (place : Location) : Except SystemError String := do
  match String.fromUTF8? (← tree.read place) with
  | some text => return text
  | none => throw .invalidText

/-- Write a text into the file at the end of some segments, a new one if there is none. -/
def writeText (tree : FileTree) (parts : List String) (text : String) :
    Except SystemError FileTree := do
  let place ← tree.walk [] parts
  match tree.get? place with
  | some .directory => throw .isDirectory
  | _ => return tree.set place (.file text.toUTF8)

/-- Make the directory at the end of some segments, where nothing stands yet. -/
def makeDirectory (tree : FileTree) (parts : List String) : Except SystemError FileTree := do
  let place ← tree.walk [] parts
  match tree.get? place with
  | some _ => throw .fileExists
  | none => return tree.set place .directory

/-- Make a directory unless there is one. -/
def makeMissing (tree : FileTree) (parts : List String) : Except SystemError FileTree :=
  match tree.makeDirectory parts with
  | .ok made => .ok made
  | .error cause => if tree.isDirectoryAt parts then .ok tree else .error cause

/-- The segments of the directory that holds the last segment.  A `.` counts only in front. -/
def parentSegments : List String → List String
  | [] => []
  | first :: rest => (first :: rest.filter (· != ".")).dropLast

theorem length_parentSegments_lt (first : String) (rest : List String) :
    (parentSegments (first :: rest)).length < (first :: rest).length := by
  have bound := List.length_filter_le (· != ".") rest
  simp only [parentSegments, List.length_dropLast, List.length_cons]
  omega

/-- Make a directory with the directories on the way to it.  The result is the tree with the
directories that could be made, and the reason why one could not. -/
def makeDirectories (tree : FileTree) : List String → FileTree × Option SystemError
  | [] => (tree, none)
  | first :: rest =>
    match tree.makeDirectory (first :: rest) with
    | .ok made => (made, none)
    | .error .notFound =>
      match makeDirectories tree (parentSegments (first :: rest)) with
      | (behind, some cause) => (behind, some cause)
      | (behind, none) =>
        match behind.makeMissing (first :: rest) with
        | .ok made => (made, none)
        | .error cause => (behind, some cause)
    | .error cause =>
      if tree.isDirectoryAt (first :: rest) then (tree, none) else (tree, some cause)
termination_by parts => parts.length
decreasing_by exact length_parentSegments_lt first rest

/-- Whether one place comes before another one when directories are listed by name, each followed by
its content. -/
def comesBefore (left right : Location) : Bool :=
  !decide (right < left)

/-- The files of the tree with their contents, sorted by their places. -/
def files (tree : FileTree) : List (Location × ByteArray) :=
  (tree.entries.entries.filterMap (fun (place, entry) =>
    match entry with
    | .file content => some (place, content)
    | .directory => none)).mergeSort (fun left right => comesBefore left.1 right.1)

/-- The files of the tree that an earlier tree did not have, or had with other content. -/
def changesSince (tree earlier : FileTree) : List (Location × ByteArray) :=
  tree.files.filter (fun (place, content) =>
    match earlier.get? place with
    | some (.file old) => old != content
    | _ => true)

/-- The directories of the tree that an earlier tree did not have. -/
def directoriesSince (tree earlier : FileTree) : List Location :=
  tree.entries.entries.filterMap (fun (place, entry) =>
    match entry with
    | .directory => if (earlier.get? place).isNone then some place else none
    | .file _ => none)

end FileTree

end RestModel

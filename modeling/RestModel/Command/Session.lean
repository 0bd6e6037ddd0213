import RestModel.Notice
import RestModel.Options.File

/-!
# Sessions

A command works on the files below the working directory and tells what it does.  It ends early with
a failure; what it has told and written until then stays.
-/

namespace RestModel

/-- Why a command ends early. -/
inductive Failure where
  | options (cause : Options.FileError)
  | missingRoot (root : String)
  | outputDirectory (path : String) (cause : SystemError)
  | directory (path : String) (cause : SystemError)
  | file (path : String) (cause : SystemError)
  | skippedDocuments (count : Nat)
  | existingOptions
  deriving DecidableEq

namespace Failure

/-- The text of a failure. -/
def message : Failure → String
  | options cause => cause.message
  | missingRoot root => "api root " ++ root ++ " does not exist"
  | outputDirectory path _ => "failed to create output directory " ++ path
  | directory path _ => "failed to create directory " ++ path
  | file path _ => "failed to write " ++ path
  | skippedDocuments count => toString count ++ " documents failed to parse"
  | existingOptions => Options.fileName ++ " already exists. Use --force to overwrite."

/-- The text of what is behind a failure. -/
def reason? : Failure → Option String
  | options cause => some cause.reason
  | outputDirectory _ cause => some cause.message
  | directory _ cause => some cause.message
  | file _ cause => some cause.message
  | missingRoot _ => none
  | skippedDocuments _ => none
  | existingOptions => none

/-- The lines that tell a failure. -/
def lines (failure : Failure) : List String :=
  ("Error: " ++ failure.message) ::
    match failure.reason? with
    | some reason => ["", "Caused by:", "    " ++ Text.hang reason]
    | none => []

end Failure

/-- What a command works on and what it has told so far. -/
structure Session where
  tree : FileTree
  /-- The notices that are shown. -/
  filter : NoticeFilter
  /-- What was told about the work. -/
  told : List String
  /-- What was shown as a result. -/
  shown : String

/-- A step of a command. -/
abbrev Action (α : Type) := ExceptT Failure (StateM Session) α

namespace Action

/-- Tell a line about the work. -/
def tell (line : String) : Action Unit :=
  modify (fun session => { session with told := session.told ++ [line] })

/-- Tell the notices that are shown. -/
def notify (notices : List Notice) : Action Unit :=
  modify (fun session =>
    let lines := (notices.filter (·.isShown session.filter)).map Notice.line
    { session with told := session.told ++ lines })

/-- Show a text as a result. -/
def display (text : String) : Action Unit :=
  modify (fun session => { session with shown := session.shown ++ text })

/-- The files as they are now. -/
def currentTree : Action FileTree :=
  return (← get).tree

/-- Go on with other files. -/
def putTree (tree : FileTree) : Action Unit :=
  modify (fun session => { session with tree := tree })

/-- The result of something that may fail for a reason of its own. -/
def orFail {ε α : Type} (failure : ε → Failure) : Except ε α → Action α
  | .ok value => pure value
  | .error cause => throw (failure cause)

/-- Make a directory with the directories on the way to it.  The empty path is the working
directory. -/
def makeDirectories (failure : SystemError → Failure) (path : String) : Action Unit := do
  let parts ← if path = "" then pure [] else orFail failure (FileTree.pathSegments path)
  let (tree, problem?) := (← currentTree).makeDirectories parts
  putTree tree
  match problem? with
  | some cause => throw (failure cause)
  | none => return ()

/-- Write a text into a file. -/
def writeFile (path text : String) : Action Unit := do
  let parts ← orFail (.file path) (FileTree.pathSegments path)
  putTree (← orFail (.file path) ((← currentTree).writeText parts text))

end Action

end RestModel

import RestModel.Command.Basic
import RestModel.Command.Session
import RestModel.JavaScript.Output
import RestModel.Loading
import RestModel.Notice.Compilation
import RestModel.Notice.Output
import RestModel.Report.Inspection
import RestModel.Report.Json
import RestModel.Report.Yaml

/-!
# Running commands

Every command that reads documents first reads the options of the project, then all documents below
its root directory, and compiles them.  Generating writes the server files before the client files.
-/

namespace RestModel

/-- The name of the program with its version. -/
def versionText : String := "wadlgen 0.3.0"

namespace Action

/-- The options of the project, or the default ones. -/
def loadOptions : Action Options := do
  let options? ← orFail .options (Options.ofTree? (← currentTree))
  return options?.getD .default

/-- The line that tells how many documents were found. -/
def foundLine (root : String) (files : List DocumentFile) : String :=
  let resources := files.countP (·.kind == .resource)
  "Found " ++ toString resources ++ " wadl files and " ++ toString (files.length - resources) ++
    " xsd files in " ++ root

/-- The notice of a skipped document. -/
def skipNotice (failure : DocumentFailure) : Notice :=
  ⟨.error, .command, failure.message ++ "; document skipped"⟩

/-- The documents below a root directory. -/
def loadDocuments (root : String) : Action LoadedDocuments := do
  let tree ← currentTree
  match tree.directory? root with
  | none => throw (.missingRoot root)
  | some place =>
    tell (foundLine root (Discovery.documents tree root place))
    let loaded := LoadedDocuments.ofRoot tree root place
    notify (loaded.failures.map skipNotice)
    return loaded

/-- The compilation of the documents below a root directory, with the number of skipped ones. -/
def compileRoot (options : Options) (root : String) : Action (Compilation × Nat) := do
  let loaded ← loadDocuments root
  notify (Compilation.notices options loaded.documents)
  return (.ofDocuments options loaded.documents, loaded.failures.length)

/-! ## Generating -/

/-- Write a generated file below a directory. -/
def writeGenerated (directory : String) (file : JavaScript.File) : Action Unit := do
  let path := Path.join directory file.path
  let parent := Path.parent path
  makeDirectories (.directory parent) parent
  writeFile path file.content
  tell ("  wrote " ++ path)

/-- Write generated files into a directory. -/
def writeOutput (directory : String) (files : List JavaScript.File) : Action Unit := do
  makeDirectories (.outputDirectory directory) directory
  files.forM (writeGenerated directory)
  tell ("Generated " ++ toString files.length ++ " files in " ++ directory)

/-- The line for a diagnostic of generating; an unregistered reference has none. -/
def warningLine? (diagnostic : Diagnostic) : Option String :=
  match diagnostic with
  | .suffixCollision _ => some ("  warning: " ++ diagnostic.message)
  | .unregisteredReference _ _ _ => none

/-- The line that ends generating. -/
def generatedLine (compilation : Compilation) (skipped : Nat) : String :=
  let stats := compilation.stats
  let unregistered := compilation.interface.diagnostics.countP (warningLine? · |>.isNone)
  toString stats.types ++ " types (" ++ toString stats.collections ++ " collections), " ++
    toString stats.unresolvedReferences ++ " unresolved member references, " ++
    toString unregistered ++ " unregistered resource references, " ++
    toString skipped ++ " documents skipped"

/-- Generate server and client files. -/
def generate (directories? : Option Directories) : Action Unit := do
  let options ← loadOptions
  let directories :=
    directories?.getD ⟨options.apiRoot, options.clientOutput, options.serverOutput⟩
  let (compilation, skipped) ← compileRoot options directories.apiRoot
  let interface := compilation.interface
  tell ("server-side types will be written to " ++ directories.serverOutput)
  notify (interface.types.flatMap JavaScript.serverNotices)
  writeOutput directories.serverOutput (JavaScript.serverFiles interface)
  tell ("client-side types will be written to " ++ directories.clientOutput)
  notify (interface.types.flatMap JavaScript.clientNotices)
  writeOutput directories.clientOutput (JavaScript.clientFiles interface options.client)
  (interface.diagnostics.filterMap warningLine?).forM tell
  tell (generatedLine compilation skipped)

/-! ## The other commands -/

/-- The lines about a compilation that is only validated. -/
def validationLines (compilation : Compilation) : List String :=
  let stats := compilation.stats
  [ "  Schemas: " ++ toString stats.schemas,
    "  Resource documents: " ++ toString stats.resources,
    "  Types: " ++ toString stats.types ++ " (" ++ toString stats.collections ++ " collections)",
    "  Path annotations: " ++ toString stats.annotations,
    "  Unresolved member references: " ++ toString stats.unresolvedReferences ] ++
    compilation.interface.diagnostics.map (fun diagnostic => "  " ++ diagnostic.message)

/-- Validate the documents below a root directory. -/
def validate (root : String) : Action Unit := do
  let (compilation, skipped) ← compileRoot (← loadOptions) root
  (validationLines compilation).forM tell
  if skipped = 0 then tell "Validation successful." else throw (.skippedDocuments skipped)

/-- Show the report on the documents below a root directory. -/
def inspect (root : String) (format : ReportFormat) : Action Unit := do
  let (compilation, _) ← compileRoot (← loadOptions) root
  match format with
  | .yaml => display (Report.Yaml.render compilation.report)
  | .json => display (Report.Json.render compilation.report)

/-- Write a file with the default options. -/
def init (force : Bool) : Action Unit := do
  if ((← currentTree).get? [Options.fileName]).isSome && !force then throw .existingOptions
  writeFile Options.fileName Options.defaultText
  tell ("Created " ++ Options.fileName)

end Action

/-- The steps of a command. -/
def Command.action : Command → Action Unit
  | version => .display (versionText ++ "\n")
  | generate directories => .generate directories
  | validate root => .validate root
  | inspect root format => .inspect root format
  | init force => .init force

/-- What is left when the program has ended. -/
structure Outcome where
  code : Nat
  /-- What was told about the work. -/
  told : List String
  shown : String
  tree : FileTree

namespace Outcome

/-- The outcome of a command. -/
def ofCommand (tree : FileTree) (filter : NoticeFilter) (command : Command) : Outcome :=
  match command.action.run.run ⟨tree, filter, [], ""⟩ with
  | (.ok (), session) => ⟨0, session.told, session.shown, session.tree⟩
  | (.error failure, session) =>
    ⟨1, session.told ++ failure.lines, session.shown, session.tree⟩

/-- The outcome of the words of a command line. -/
def ofWords (tree : FileTree) (filter : NoticeFilter) (words : List String) : Outcome :=
  match Command.ofWords? words with
  | some command => ofCommand tree filter command
  | none => ⟨2, Command.usageLines, "", tree⟩

end Outcome

end RestModel

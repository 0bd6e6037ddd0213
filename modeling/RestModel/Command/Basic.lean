/-!
# Commands

What the program can be asked to do, and the arguments that ask for it.  Arguments that ask for
nothing the program can do are a usage error.
-/

namespace RestModel

/-- How a report is shown. -/
inductive ReportFormat where
  | yaml
  | json
  deriving DecidableEq

/-- The format with a name. -/
def ReportFormat.ofName? : String → Option ReportFormat
  | "yaml" => some yaml
  | "json" => some json
  | _ => none

/-- The directories that files are generated from and into. -/
structure Directories where
  apiRoot : String
  clientOutput : String
  serverOutput : String
  deriving DecidableEq

/-- A request to the program. -/
inductive Command where
  | version
  /-- Generate files, in the directories of the project where no others are given. -/
  | generate (directories : Option Directories)
  | validate (root : String)
  | inspect (root : String) (format : ReportFormat)
  | init (force : Bool)
  deriving DecidableEq

namespace Command

/-- The arguments of a command, sorted by what they are. -/
structure Arguments where
  positionals : List String
  formats : List ReportFormat
  /-- How often overwriting was asked for. -/
  forces : Nat

namespace Arguments

/-- The name of the argument that chooses a format. -/
def formatName : String := "--format"

/-- The format that an argument chooses together with its own name. -/
def attachedFormat? (argument : String) : Option ReportFormat :=
  ((formatName ++ "=").toList.isPrefixOf? argument.toList).bind
    (fun name => ReportFormat.ofName? (String.ofList name))

/-- Whether an argument stands for itself.  A hyphen alone does. -/
def isPositional (argument : String) : Bool :=
  argument == "-" || argument.toList.head? != some '-'

/-- Sort arguments; every argument behind `--` stands for itself. -/
def read? : List String → Option Arguments
  | [] => some ⟨[], [], 0⟩
  | "--" :: rest => some ⟨rest, [], 0⟩
  | "--force" :: rest =>
    (read? rest).map (fun others => { others with forces := others.forces + 1 })
  | "--format" :: name :: rest => do
    let format ← ReportFormat.ofName? name
    let others ← read? rest
    return { others with formats := format :: others.formats }
  | argument :: rest =>
    if isPositional argument then
      (read? rest).map (fun others =>
        { others with positionals := argument :: others.positionals })
    else do
      let format ← attachedFormat? argument
      let others ← read? rest
      return { others with formats := format :: others.formats }

end Arguments

/-- The command with a name for which its arguments ask. -/
def ofArguments? (name : String) (arguments : Arguments) : Option Command :=
  match name, arguments with
  | "generate", ⟨[], [], 0⟩ => some (.generate none)
  | "generate", ⟨[root, client, server], [], 0⟩ => some (.generate (some ⟨root, client, server⟩))
  | "validate", ⟨[root], [], 0⟩ => some (.validate root)
  | "inspect", ⟨[root], [], 0⟩ => some (.inspect root .yaml)
  | "inspect", ⟨[root], [format], 0⟩ => some (.inspect root format)
  | "init", ⟨[], [], 0⟩ => some (.init false)
  | "init", ⟨[], [], 1⟩ => some (.init true)
  | _, _ => none

/-- Whether an argument in front asks for the version. -/
def asksForVersion (argument : String) : Bool :=
  argument == "--version" || "-V".toList.isPrefixOf argument.toList

/-- The command for which words ask.  No argument that stands for itself may be empty. -/
def ofWords? : List String → Option Command
  | [] => none
  | name :: rest =>
    if asksForVersion name then some .version
    else do
      let arguments ← Arguments.read? rest
      if arguments.positionals.contains "" then none else ofArguments? name arguments

/-- What a usage error tells. -/
def usageLines : List String := [
  "usage: wadlgen generate [API_ROOT CLIENT_OUTPUT SERVER_OUTPUT]",
  "       wadlgen validate ROOT",
  "       wadlgen inspect ROOT [--format yaml|json]",
  "       wadlgen init [--force]",
  "       wadlgen --version"]

end Command

end RestModel

import RestModel.Report.Value
import RestModel.Yaml.Scalar

/-!
# Reports as YAML

Records and lists are written as blocks.  The items of a list stand below the name of its field
without further indentation; a record in a list begins behind the dash of its item.
-/

namespace RestModel.Report.Yaml

/-- The spaces in front of a line. -/
def margin (indent : Nat) : String :=
  String.ofList (List.replicate indent ' ')

/-- Parts of a block, each of which ends its last line.  The first one stands where the block
begins. -/
def block (indent : Nat) (parts : List String) : String :=
  (margin indent).intercalate parts

mutual

/-- A part of a report that begins at the column `indent`. -/
def write (indent : Nat) : Value → String
  | .nothing => "null\n"
  | .count number => toString number ++ "\n"
  | .text content => Yaml.Scalar.write indent content
  | .list [] => "[]\n"
  | .list items => block indent (writeItems indent items)
  | .record [] => "\x7b\x7d\n"
  | .record fields => block indent (writeFields indent fields)

/-- The items of a list whose dashes stand at the column `indent`. -/
def writeItems (indent : Nat) : List Value → List String
  | [] => []
  | item :: rest => ("- " ++ write (indent + 2) item) :: writeItems indent rest

/-- The fields of a record whose names stand at the column `indent`. -/
def writeFields (indent : Nat) : List (String × Value) → List String
  | [] => []
  | (name, value) :: rest => (name ++ ":" ++ writeField indent value) :: writeFields indent rest

/-- The value of a field behind its name. -/
def writeField (indent : Nat) : Value → String
  | .nothing => " null\n"
  | .count number => " " ++ toString number ++ "\n"
  | .text content => " " ++ Yaml.Scalar.write (indent + 2) content
  | .list [] => " []\n"
  | .list items => "\n" ++ margin indent ++ block indent (writeItems indent items)
  | .record [] => " \x7b\x7d\n"
  | .record fields =>
    "\n" ++ margin (indent + 2) ++ block (indent + 2) (writeFields (indent + 2) fields)

end

/-- A report as a YAML document. -/
def render (report : Value) : String :=
  write 0 report

end RestModel.Report.Yaml

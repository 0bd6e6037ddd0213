import RestModel.Report.Value

/-!
# Reports as JSON

Every item of a list and every field of a record has a line of its own, indented by two spaces more
than the brackets around it.  An empty list is a pair of brackets.
-/

namespace RestModel.Report.Json

/-- A character as it stands in a string. -/
def escape (char : Char) : String :=
  match char with
  | '"' => "\\\""
  | '\\' => "\\\\"
  | '\x08' => "\\b"
  | '\x0c' => "\\f"
  | '\n' => "\\n"
  | '\r' => "\\r"
  | '\t' => "\\t"
  | _ =>
    if char.toNat < 0x10 then "\\u000" ++ String.ofList (Nat.toDigits 16 char.toNat)
    else if char.toNat < 0x20 then "\\u00" ++ String.ofList (Nat.toDigits 16 char.toNat)
    else char.toString

/-- A text as a string. -/
def quoted (text : String) : String :=
  "\"" ++ "".intercalate (text.toList.map escape) ++ "\""

/-- The spaces in front of a line at a depth. -/
def margin (depth : Nat) : String :=
  String.ofList (List.replicate (2 * depth) ' ')

/-- Parts between brackets, each on a line of its own. -/
def bracketed (opening closing : String) (depth : Nat) (parts : List String) : String :=
  if parts.isEmpty then opening ++ closing
  else
    opening ++ "\n" ++ margin (depth + 1) ++
      (",\n" ++ margin (depth + 1)).intercalate parts ++ "\n" ++ margin depth ++ closing

mutual

/-- A part of a report at a depth. -/
def write (depth : Nat) : Value → String
  | .nothing => "null"
  | .count number => toString number
  | .text content => quoted content
  | .list items => bracketed "[" "]" depth (writeItems (depth + 1) items)
  | .record fields => bracketed "\x7b" "\x7d" depth (writeFields (depth + 1) fields)

/-- The items of a list at a depth. -/
def writeItems (depth : Nat) : List Value → List String
  | [] => []
  | item :: rest => write depth item :: writeItems depth rest

/-- The fields of a record at a depth. -/
def writeFields (depth : Nat) : List (String × Value) → List String
  | [] => []
  | (name, value) :: rest =>
    (quoted name ++ ": " ++ write depth value) :: writeFields depth rest

end

/-- A report as a JSON text. -/
def render (report : Value) : String :=
  write 0 report ++ "\n"

end RestModel.Report.Json

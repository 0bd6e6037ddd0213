/-!
# Hanging lines

A text of several lines hangs below its first line when the further ones are indented.
-/

namespace RestModel.Text

/-- The text with every line but the first one indented by four spaces. -/
def hang (text : String) : String :=
  String.ofList (text.toList.flatMap (fun char =>
    if char = '\n' then "\n    ".toList else [char]))

end RestModel.Text

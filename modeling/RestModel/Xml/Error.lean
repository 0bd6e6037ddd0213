import RestModel.Text.Numeral

/-!
# Reading errors

What can be wrong with a document, from single characters up to its root element, with the text of
each error and the texts of the causes behind it.
-/

namespace RestModel.Xml

/-- Markup that does not end, or cannot begin. -/
inductive SyntaxError where
  | unknownMarkup
  | unclosedInstruction
  | unclosedComment
  | unclosedDoctype
  | unclosedData
  | unclosedTag
  deriving DecidableEq

/-- The text of a syntax error. -/
def SyntaxError.message : SyntaxError → String
  | unknownMarkup => "unknown or missed symbol in markup"
  | unclosedInstruction =>
    "processing instruction or xml declaration not closed: `?>` not found before end of input"
  | unclosedComment => "comment not closed: `-->` not found before end of input"
  | unclosedDoctype => "DOCTYPE not closed: `>` not found before end of input"
  | unclosedData => "CDATA not closed: `]]>` not found before end of input"
  | unclosedTag => "tag not closed: `>` not found before end of input"

/-- Complete markup that cannot stand where it stands. -/
inductive StructureError where
  | unmatchedEnd (found : String)
  | mismatchedEnd (expected found : String)
  | missingDoctypeName
  deriving DecidableEq

/-- The text of a structure error. -/
def StructureError.message : StructureError → String
  | unmatchedEnd found => "close tag `</" ++ found ++ ">` does not match any open tag"
  | mismatchedEnd expected found =>
    "expected `</" ++ expected ++ ">`, but `</" ++ found ++ ">` was found"
  | missingDoctypeName => "`<!DOCTYPE>` declaration does not contain a name of a document type"

/-- A reference to a character by its number that names no character. -/
inductive CharRefError where
  | unexpectedSign
  | invalidNumber (error : Text.NumeralError)
  | invalidCodepoint (code : Nat)
  | nul
  deriving DecidableEq

/-- The text of a character reference error. -/
def CharRefError.message : CharRefError → String
  | unexpectedSign => "unexpected number sign"
  | invalidNumber error => error.message
  | invalidCodepoint code => "`" ++ toString code ++ "` is not a valid codepoint"
  | nul => "0x0 character is not permitted in XML"

/-- An entity or character reference that cannot be replaced.  Positions are byte offsets. -/
inductive EscapeError where
  | unrecognized (start stop : Nat) (name : String)
  | unterminated (start stop : Nat)
  | invalidCharRef (error : CharRefError)
  deriving DecidableEq

/-- A range of positions. -/
def rangeText (start stop : Nat) : String :=
  toString start ++ ".." ++ toString stop

/-- The text of an escape error. -/
def EscapeError.message : EscapeError → String
  | unrecognized start stop name =>
    "at " ++ rangeText start stop ++ ": unrecognized entity `" ++ name ++ "`"
  | unterminated start stop =>
    "Error while escaping character at range " ++ rangeText start stop ++
      ": Cannot find ';' after '&'"
  | invalidCharRef error => "invalid character reference: " ++ error.message

/-- A malformed attribute.  Positions are byte offsets behind the `<` of the tag. -/
inductive AttributeError where
  | expectedEq (position : Nat)
  | expectedValue (position : Nat)
  | unquotedValue (position : Nat)
  | expectedQuote (position : Nat) (quote : Char)
  | duplicated (position previous : Nat)
  deriving DecidableEq

/-- The text of an attribute error. -/
def AttributeError.message : AttributeError → String
  | expectedEq position =>
    "position " ++ toString position ++ ": attribute key must be directly followed by `=` or space"
  | expectedValue position =>
    "position " ++ toString position ++ ": `=` must be followed by an attribute value"
  | unquotedValue position =>
    "position " ++ toString position ++ ": attribute value must be enclosed in `\"` or `'`"
  | expectedQuote position quote =>
    "position " ++ toString position ++ ": missing closing quote `" ++ quote.toString ++
      "` in attribute value"
  | duplicated position previous =>
    "position " ++ toString position ++
      ": duplicated attribute, previous declaration at position " ++ toString previous

/-- Text that is not XML. -/
inductive MarkupError where
  | malformed (error : SyntaxError)
  | illFormed (error : StructureError)
  | escape (error : EscapeError)
  deriving DecidableEq

/-- The text of a markup error. -/
def MarkupError.message : MarkupError → String
  | malformed error => "syntax error: " ++ error.message
  | illFormed error => "ill-formed document: " ++ error.message
  | escape error => error.message

/-- The texts of the causes of a markup error, from the nearest to the deepest. -/
def MarkupError.causes : MarkupError → List String
  | malformed error => [error.message]
  | illFormed error => [error.message]
  | escape error =>
    error.message ::
      match error with
      | .invalidCharRef (.invalidNumber number) => [number.message, number.message]
      | .invalidCharRef reference => [reference.message]
      | _ => []

/-- Why a text is not a document of the expected kind. -/
inductive DocumentError where
  | markup (error : MarkupError)
  | badAttribute (error : AttributeError)
  | emptyDocument
  | unbalancedTag (name : String)
  | unexpectedRoot (expected found : String)
  deriving DecidableEq

/-- The text of a document error. -/
def DocumentError.message : DocumentError → String
  | markup error => "failed to parse XML: " ++ error.message
  | badAttribute error => "invalid attribute: " ++ error.message
  | emptyDocument => "document has no root element"
  | unbalancedTag name => "unbalanced end tag: " ++ name
  | unexpectedRoot expected found =>
    "expected root element `" ++ expected ++ "`, found `" ++ found ++ "`"

/-- The texts of the causes of a document error, from the nearest to the deepest. -/
def DocumentError.causes : DocumentError → List String
  | markup error => error.message :: error.causes
  | badAttribute error => [error.message]
  | _ => []

end RestModel.Xml

import RestModel.Yaml.Plain
import RestModel.Yaml.Token

/-!
# Writing YAML scalars

A text of several lines is written as a literal block, every other text without quotes where it
reads back as the same text.  Single quotes come next, and double quotes can show every text: they
write as an escape what cannot stand for itself.
-/

namespace RestModel.Yaml.Scalar

/-- Whether a character can stand for itself between quotes. -/
def isPrintable (char : Char) : Bool :=
  let code := char.toNat
  code == 0xA || (0x20 ≤ code && code ≤ 0x7E) || (0xA0 ≤ code && code ≤ 0xD7FF) ||
    (0xE000 ≤ code && code ≤ 0xFFFD && code != 0xFEFF) || 0x10000 ≤ code

/-! ## What a text allows -/

/-- Whether a space stands directly in front of a line break. -/
def hasSpaceBeforeBreak : List Char → Bool
  | char :: next :: rest =>
    (char == ' ' && isBreak next) || hasSpaceBeforeBreak (next :: rest)
  | _ => false

/-- Whether a line break stands directly in front of a space. -/
def hasBreakBeforeSpace : List Char → Bool
  | char :: next :: rest =>
    (isBreak char && next == ' ') || hasBreakBeforeSpace (next :: rest)
  | _ => false

/-- Whether a character is a blank or ends a line. -/
def isGap (char : Char) : Bool :=
  isBlank char || isBreak char || char == '\x00'

/-- Whether a text ends here or goes on with a gap. -/
def startsWithGap (text : List Char) : Bool :=
  text.head?.all isGap

/-- Whether a colon before a gap or a hash behind one would end the scalar early, given whether the
character in front is a gap. -/
def hasInnerIndicator (behindGap : Bool) : List Char → Bool
  | [] => false
  | char :: rest =>
    (char == ':' && startsWithGap rest) || (char == '#' && behindGap) ||
      hasInnerIndicator (isGap char) rest

/-- The characters that mean something at the beginning of a scalar. -/
def leadingIndicators : List Char :=
  "#,[]\x7b\x7d&*!|>'\"%@\x60".toList

/-- Whether a text means something else than itself when it stands without quotes. -/
def hasIndicator : List Char → Bool
  | [] => false
  | char :: rest =>
    "---".toList.isPrefixOf (char :: rest) || "...".toList.isPrefixOf (char :: rest) ||
      leadingIndicators.contains char || ("?:-".toList.contains char && startsWithGap rest) ||
      hasInnerIndicator (isGap char) rest

/-- Whether a text can stand without quotes. -/
def allowsPlain (text : List Char) : Bool :=
  text.all isPrintable && !text.any isBreak && text.head? != some ' ' &&
    text.getLast? != some ' ' && !hasIndicator text

/-- Whether a text can stand between single quotes. -/
def allowsSingleQuotes (text : List Char) : Bool :=
  text.all isPrintable && !hasSpaceBeforeBreak text && !hasBreakBeforeSpace text

/-- Whether a text can stand in a literal block. -/
def allowsLiteral (text : List Char) : Bool :=
  text.all isPrintable && !hasSpaceBeforeBreak text && text.getLast? != some ' '

/-- Whether a text without quotes would read as something else than a text. -/
def needsQuotes (text : String) : Bool :=
  PlainValue.ofText text != .text || PlainValue.isPaddedDigits text.toList

/-- The style in which a text is written. -/
def styleOf (text : String) : ScalarStyle :=
  let chars := text.toList
  if chars.contains '\n' && allowsLiteral chars then .literal
  else if !chars.contains '\n' && !needsQuotes text && allowsPlain chars then .plain
  else if !chars.contains '\n' && allowsSingleQuotes chars then .singleQuoted
  else .doubleQuoted

/-! ## Writing in each style -/

/-- Characters with the lines behind the first one indented.  A line without characters is not. -/
def indentLines (margin : List Char) (behindBreak : Bool) : List Char → List Char
  | [] => []
  | char :: rest =>
    if isBreak char then char :: indentLines margin true rest
    else if behindBreak then margin ++ char :: indentLines margin false rest
    else char :: indentLines margin false rest

/-- Whether the last line of a text has ended. -/
def endsLine (text : List Char) : Bool :=
  text.getLast?.any isBreak

/-- The sign for the line breaks at the end of a literal block: none are kept, or one, or all. -/
def chomping (text : List Char) : String :=
  if !endsLine text then "-"
  else if text.dropLast.isEmpty || endsLine text.dropLast then "+"
  else ""

/-- A text as a literal block. -/
def literalText (margin text : List Char) : String :=
  let hint := if text.head?.any (fun char => char == ' ' || isBreak char) then "2" else ""
  "|" ++ hint ++ chomping text ++ "\n" ++ String.ofList (indentLines margin true text) ++
    (if endsLine text then "" else "\n")

/-- A text between single quotes; quotes in it are doubled. -/
def singleQuotedText (margin text : List Char) : String :=
  let doubled := text.flatMap (fun char => if char = '\'' then ['\'', '\''] else [char])
  let closing := if endsLine text then margin else []
  "'" ++ String.ofList (indentLines margin false doubled ++ closing) ++ "'\n"

/-- The upper-case hexadecimal digits of a number, at least `width` of them. -/
def hexDigits (width number : Nat) : String :=
  let digits := (Nat.toDigits 16 number).map Char.toUpper
  String.ofList (List.replicate (width - digits.length) '0' ++ digits)

/-- A character as it stands between double quotes. -/
def escape (char : Char) : String :=
  match char with
  | '\x00' => "\\0"
  | '\x07' => "\\a"
  | '\x08' => "\\b"
  | '\t' => "\\t"
  | '\n' => "\\n"
  | '\x0b' => "\\v"
  | '\x0c' => "\\f"
  | '\r' => "\\r"
  | '\x1b' => "\\e"
  | '"' => "\\\""
  | '\\' => "\\\\"
  | '\u0085' => "\\N"
  | '\u2028' => "\\L"
  | '\u2029' => "\\P"
  | _ =>
    let code := char.toNat
    if isPrintable char then char.toString
    else if code ≤ 0xFF then "\\x" ++ hexDigits 2 code
    else "\\u" ++ hexDigits 4 code

/-- A text between double quotes. -/
def doubleQuotedText (text : List Char) : String :=
  "\"" ++ "".intercalate (text.map escape) ++ "\"\n"

/-- A text as a scalar with the end of its last line.  Further lines are indented by `indent`. -/
def write (indent : Nat) (text : String) : String :=
  let margin := List.replicate indent ' '
  match styleOf text with
  | .plain => text ++ "\n"
  | .singleQuoted => singleQuotedText margin text.toList
  | .literal | .folded => literalText margin text.toList
  | .doubleQuoted => doubleQuotedText text.toList

end RestModel.Yaml.Scalar

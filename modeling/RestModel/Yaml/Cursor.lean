import RestModel.Text.Size

/-!
# Places in a YAML text

A mark is a place in a text, counted from zero: in bytes from the beginning of the text, and in
lines and characters of the line.  A cursor is a mark together with the text behind it.
-/

namespace RestModel.Yaml

/-- A place in a text. -/
structure Mark where
  /-- The number of bytes in front of the place. -/
  offset : Nat
  line : Nat
  column : Nat
  deriving DecidableEq, Inhabited

namespace Mark

/-- The first place of a text. -/
def start : Mark :=
  ⟨0, 0, 0⟩

/-- Whether the place is the beginning of the first line. -/
def isOrigin (mark : Mark) : Bool :=
  mark.line == 0 && mark.column == 0

/-- The place as shown in messages, with lines and columns counted from one. -/
def text (mark : Mark) : String :=
  "line " ++ toString (mark.line + 1) ++ " column " ++ toString (mark.column + 1)

end Mark

/-! ## Classes of characters -/

/-- A space or a tab. -/
def isBlank (char : Char) : Bool :=
  char == ' ' || char == '\t'

/-- A character that ends a line. -/
def isBreak (char : Char) : Bool :=
  char == '\r' || char == '\n' || char == '\u0085' || char == '\u2028' || char == '\u2029'

/-- A letter, a digit, an underscore or a hyphen. -/
def isWordChar (char : Char) : Bool :=
  char.isAlphanum || char == '_' || char == '-'

/-- A place in a text with the text behind it. -/
structure Cursor where
  mark : Mark
  rest : List Char

namespace Cursor

/-- The beginning of a text. -/
def ofText (text : List Char) : Cursor :=
  ⟨.start, text⟩

/-- The next character. -/
def peek? (cursor : Cursor) : Option Char :=
  cursor.rest.head?

/-- The character behind the next `count` ones. -/
def peekAt? (cursor : Cursor) (count : Nat) : Option Char :=
  cursor.rest[count]?

/-- Whether the next character is the given one. -/
def startsWith (cursor : Cursor) (char : Char) : Bool :=
  cursor.peek? == some char

/-- Whether no text is left. -/
def atEnd (cursor : Cursor) : Bool :=
  cursor.rest.isEmpty

/-- Whether a character, or the end of the text in its place, belongs to a class or is the end. -/
def endsOr (inClass : Char → Bool) : Option Char → Bool
  | none => true
  | some char => inClass char

/-- Whether the next character is a space or a tab. -/
def atBlank (cursor : Cursor) : Bool :=
  cursor.peek?.any isBlank

/-- Whether the next character ends a line. -/
def atBreak (cursor : Cursor) : Bool :=
  cursor.peek?.any isBreak

/-- Whether a line or the text ends here. -/
def atBreakOrEnd (cursor : Cursor) : Bool :=
  endsOr isBreak cursor.peek?

/-- Whether a word ends behind the next `count` characters: by white space or with the text. -/
def blankOrEndAt (cursor : Cursor) (count : Nat) : Bool :=
  endsOr (fun char => isBlank char || isBreak char) (cursor.peekAt? count)

/-- Skip characters of the current line. -/
def skip (cursor : Cursor) (count : Nat) : Cursor :=
  let taken := cursor.rest.take count
  ⟨⟨cursor.mark.offset + Text.byteSize taken, cursor.mark.line,
      cursor.mark.column + taken.length⟩,
    cursor.rest.drop count⟩

/-- Read the longest run of characters of a class in the current line. -/
def span (cursor : Cursor) (inClass : Char → Bool) : List Char × Cursor :=
  let run := cursor.rest.takeWhile inClass
  (run, cursor.skip run.length)

/-- Skip the longest run of characters of a class in the current line. -/
def skipWhile (cursor : Cursor) (inClass : Char → Bool) : Cursor :=
  (cursor.span inClass).2

/-- Read a line break.  Every break but the two Unicode separators reads as a line feed; a carriage
return and a line feed are one break.  Where no break stands, nothing is read. -/
def readBreak (cursor : Cursor) : List Char × Cursor :=
  let next (count : Nat) : Cursor :=
    ⟨⟨cursor.mark.offset + Text.byteSize (cursor.rest.take count), cursor.mark.line + 1, 0⟩,
      cursor.rest.drop count⟩
  match cursor.rest with
  | '\r' :: '\n' :: _ => (['\n'], next 2)
  | char :: _ =>
    if char = '\u2028' ∨ char = '\u2029' then ([char], next 1)
    else if isBreak char then (['\n'], next 1)
    else ([], cursor)
  | [] => ([], cursor)

/-- Skip a line break, if one stands here. -/
def skipBreak (cursor : Cursor) : Cursor :=
  cursor.readBreak.2

/-- Skip the rest of the line from a comment sign on, if one stands here. -/
def skipComment (cursor : Cursor) : Cursor :=
  if cursor.startsWith '#' then cursor.skipWhile (!isBreak ·) else cursor

/-- Whether a line begins here with three equal characters and ends or goes on with white space. -/
def atIndicator (cursor : Cursor) (char : Char) : Bool :=
  cursor.mark.column == 0 && [char, char, char].isPrefixOf cursor.rest && cursor.blankOrEndAt 3

/-- Whether a line that separates documents begins here. -/
def atDocumentIndicator (cursor : Cursor) : Bool :=
  cursor.atIndicator '-' || cursor.atIndicator '.'

/-- What one step of a repetition does: it ends the repetition or asks for another step. -/
inductive Progress (α : Type) where
  | done (value : α) (next : Cursor)
  | more (value : α) (next : Cursor)

/-- Repeat a step until it is done.  A step that asks for more without reading anything is the last
one. -/
def repeatStep {ε α : Type} (step : α → Cursor → Except ε (Progress α)) (value : α)
    (cursor : Cursor) : Except ε (α × Cursor) :=
  match step value cursor with
  | .error cause => .error cause
  | .ok (.done result next) => .ok (result, next)
  | .ok (.more result next) =>
    if next.rest.length < cursor.rest.length then repeatStep step result next
    else .ok (result, next)
termination_by cursor.rest.length

end Cursor

end RestModel.Yaml

import RestModel.Text.Numeral
import RestModel.Yaml.Error
import RestModel.Yaml.Token

/-!
# Scalars

The three ways to write a scalar: plain, in quotes, or as a block of lines.  Plain and quoted
scalars may go over several lines, which are folded: one line break reads as a space, and of several
the first is dropped.
-/

namespace RestModel.Yaml

/-- White space inside a scalar: blanks of one line, or line breaks with the blanks around them. -/
structure Gap where
  /-- Whether the gap crosses lines; its blanks do not count then. -/
  broken : Bool
  blanks : List Char
  firstBreak : List Char
  moreBreaks : List Char

namespace Gap

/-- A gap without any character. -/
def empty : Gap :=
  ⟨false, [], [], []⟩

/-- A gap that crosses to the next line without a break of its own. -/
def escaped : Gap :=
  ⟨true, [], [], []⟩

/-- The gap with one more line break. -/
def addBreak (gap : Gap) (lineBreak : List Char) : Gap :=
  if gap.broken then { gap with moreBreaks := gap.moreBreaks ++ lineBreak }
  else { gap with broken := true, firstBreak := lineBreak }

/-- What the gap reads as. -/
def fold (gap : Gap) : List Char :=
  if !gap.broken then gap.blanks
  else if gap.firstBreak = ['\n'] then (if gap.moreBreaks.isEmpty then [' '] else gap.moreBreaks)
  else gap.firstBreak ++ gap.moreBreaks

/-- Read a gap on from a beginning.  `check` may refuse a place inside the gap. -/
def read (check : Gap → Cursor → Except SyntaxError Unit) (gap : Gap) (cursor : Cursor) :
    Except SyntaxError (Gap × Cursor) :=
  Cursor.repeatStep (fun gap cursor =>
    match cursor.peek? with
    | none => .ok (.done gap cursor)
    | some char =>
      if isBlank char then do
        check gap cursor
        return .more (if gap.broken then gap else { gap with blanks := gap.blanks ++ [char] })
          (cursor.skip 1)
      else if isBreak char then
        let (lineBreak, next) := cursor.readBreak
        .ok (.more (gap.addBreak lineBreak) next)
      else .ok (.done gap cursor)) gap cursor

end Gap

namespace Token

/-- The scalar token of characters read from a place on. -/
def ofScalar (text : List Char) (style : ScalarStyle) (start stop : Mark) : Token :=
  ⟨.scalar (String.ofList text) style, start, stop⟩

/-! ## Plain scalars -/

/-- A character that has a meaning of its own in flow collections. -/
def isFlowIndicator (char : Char) : Bool :=
  char == ',' || char == '[' || char == ']' || char == '\x7b' || char == '\x7d'

/-- Read the characters of a plain scalar up to the next gap or the end of the scalar. -/
def readPlainWord (inFlow : Bool) (start : Mark) (cursor : Cursor) :
    Except SyntaxError (List Char × Cursor) :=
  Cursor.repeatStep (fun word cursor =>
    match cursor.peek? with
    | none => .ok (.done word cursor)
    | some char =>
      if isBlank char || isBreak char then .ok (.done word cursor)
      else if inFlow && char == ':' &&
          (cursor.peekAt? 1).any (fun next => isFlowIndicator next || next == '?') then
        .error (.during .misplacedColon cursor.mark .plainScalar start)
      else if (char == ':' && cursor.blankOrEndAt 1) || (inFlow && isFlowIndicator char) then
        .ok (.done word cursor)
      else .ok (.more (word ++ [char]) (cursor.skip 1))) [] cursor

/-- A plain scalar while it is read. -/
structure PlainState where
  text : List Char
  gap : Gap
  /-- The place behind the last character that belongs to the scalar. -/
  stop : Mark

/-- Read one word of a plain scalar and the gap behind it. -/
def plainStep (inFlow : Bool) (indent : Nat) (start : Mark) (state : PlainState)
    (cursor : Cursor) : Except SyntaxError (Cursor.Progress PlainState) :=
  if cursor.atDocumentIndicator || cursor.startsWith '#' then .ok (.done state cursor)
  else do
    let (word, behind) ← readPlainWord inFlow start cursor
    let state :=
      if word.isEmpty then state
      else ⟨state.text ++ state.gap.fold ++ word, .empty, behind.mark⟩
    if !(behind.atBlank || behind.atBreak) then return .done state behind
    let check (gap : Gap) (cursor : Cursor) : Except SyntaxError Unit :=
      if gap.broken && cursor.mark.column < indent && cursor.startsWith '\t' then
        .error (.during .tabBreaksIndentation cursor.mark .plainScalar start)
      else .ok ()
    let (gap, next) ← Gap.read check state.gap behind
    let state := { state with gap := gap }
    if !inFlow && next.mark.column < indent then return .done state next
    return .more state next

/-- Read a plain scalar whose further lines are indented by at least `indent`.  The flag tells
whether the scalar was followed by a line break. -/
def readPlain (inFlow : Bool) (indent : Nat) (cursor : Cursor) :
    Except SyntaxError (Token × Bool × Cursor) := do
  let (state, next) ← Cursor.repeatStep (plainStep inFlow indent cursor.mark)
    ⟨[], .empty, cursor.mark⟩ cursor
  return (ofScalar state.text .plain cursor.mark state.stop, state.gap.broken, next)

/-! ## Quoted scalars -/

/-- The characters for which one letter behind a backslash stands. -/
def simpleEscapes : List (Char × Char) := [
  ('0', '\x00'), ('a', '\x07'), ('b', '\x08'), ('t', '\t'), ('\t', '\t'), ('n', '\n'),
  ('v', '\x0b'), ('f', '\x0c'), ('r', '\r'), ('e', '\x1b'), (' ', ' '), ('"', '"'), ('/', '/'),
  ('\\', '\\'), ('N', '\u0085'), ('_', '\u00a0'), ('L', '\u2028'), ('P', '\u2029')]

/-- The number of hexadecimal digits behind a letter that introduces a character code. -/
def escapeDigits? : Char → Option Nat
  | 'x' => some 2
  | 'u' => some 4
  | 'U' => some 8
  | _ => none

/-- The value of hexadecimal digits. -/
def hexValue? (digits : List Char) : Option Nat :=
  digits.foldl (fun value? digit => do
    let value ← value?
    let next ← Text.digitValue? 16 digit
    return value * 16 + next) (some 0)

/-- Read the character for which a backslash and what follows stand. -/
def readEscape (start : Mark) (cursor : Cursor) : Except SyntaxError (Char × Cursor) :=
  let failure (problem : Problem) (place : Cursor) : Except SyntaxError (Char × Cursor) :=
    .error (.during problem place.mark .quotedEscape start)
  match cursor.peekAt? 1 with
  | none => failure .unknownEscape cursor
  | some letter =>
    match simpleEscapes.lookup letter, escapeDigits? letter with
    | some char, _ => .ok (char, cursor.skip 2)
    | none, none => failure .unknownEscape cursor
    | none, some count =>
      let behind := cursor.skip 2
      let digits := behind.rest.take count
      match hexValue? digits with
      | none => failure .badHexEscape behind
      | some code =>
        if digits.length < count then failure .badHexEscape behind
        else if code.isValidChar then .ok (Char.ofNat code, behind.skip count)
        else failure .badCharEscape behind

/-- Characters of a quoted scalar up to the next gap: the flag tells whether an escaped line break
began that gap. -/
structure QuotedWord where
  text : List Char
  escapedBreak : Bool

/-- Read the characters of a quoted scalar up to the next gap or the closing quote. -/
def readQuotedWord (quote : Char) (start : Mark) (cursor : Cursor) :
    Except SyntaxError (QuotedWord × Cursor) :=
  Cursor.repeatStep (fun (word : QuotedWord) cursor =>
    match cursor.peek? with
    | none => .ok (.done word cursor)
    | some char =>
      if isBlank char || isBreak char then .ok (.done word cursor)
      else if quote == '\'' && char == '\'' && cursor.peekAt? 1 == some '\'' then
        .ok (.more { word with text := word.text ++ ['\''] } (cursor.skip 2))
      else if char == quote then .ok (.done word cursor)
      else if quote == '"' && char == '\\' then
        if (cursor.peekAt? 1).any isBreak then
          .ok (.done { word with escapedBreak := true } (cursor.skip 1).skipBreak)
        else do
          let (escaped, next) ← readEscape start cursor
          return .more { word with text := word.text ++ [escaped] } next
      else .ok (.more { word with text := word.text ++ [char] } (cursor.skip 1)))
    ⟨[], false⟩ cursor

/-- Read one word of a quoted scalar and the gap behind it. -/
def quotedStep (quote : Char) (start : Mark) (text : List Char) (cursor : Cursor) :
    Except SyntaxError (Cursor.Progress (List Char)) :=
  if cursor.atDocumentIndicator then
    .error (.during .documentInQuotes cursor.mark .quotedScalar start)
  else if cursor.atEnd then .error (.during .endInQuotes cursor.mark .quotedScalar start)
  else do
    let (word, behind) ← readQuotedWord quote start cursor
    let text := text ++ word.text
    if behind.startsWith quote then return .done text (behind.skip 1)
    let (gap, next) ← Gap.read (fun _ _ => .ok ())
      (if word.escapedBreak then .escaped else .empty) behind
    return .more (text ++ gap.fold) next

/-- Read a quoted scalar. -/
def readQuoted (quote : Char) (style : ScalarStyle) (cursor : Cursor) :
    Except SyntaxError (Token × Cursor) := do
  let (text, next) ← Cursor.repeatStep (quotedStep quote cursor.mark) [] (cursor.skip 1)
  return (ofScalar text style cursor.mark next.mark, next)

/-! ## Block scalars -/

/-- What becomes of the line breaks at the end of a block scalar. -/
inductive Chomping where
  | strip
  | clip
  | keep
  deriving DecidableEq

/-- The chomping for which a character stands. -/
def Chomping.ofChar? : Char → Option Chomping
  | '+' => some keep
  | '-' => some strip
  | _ => none

/-- Read a chomping indicator, if one stands here. -/
def readChomping (cursor : Cursor) : Option Chomping × Cursor :=
  match cursor.peek?.bind Chomping.ofChar? with
  | some chomping => (some chomping, cursor.skip 1)
  | none => (none, cursor)

/-- Read an indentation indicator, if one stands here. -/
def readIncrement (start : Mark) (cursor : Cursor) : Except SyntaxError (Option Nat × Cursor) :=
  match cursor.peek?.bind (Text.digitValue? 10) with
  | some 0 => .error (.during .zeroIndentation cursor.mark .blockScalar start)
  | some digit => .ok (some digit, cursor.skip 1)
  | none => .ok (none, cursor)

/-- Read the indicators of a block scalar, in either order. -/
def readBlockHeader (start : Mark) (cursor : Cursor) :
    Except SyntaxError (Chomping × Option Nat × Cursor) := do
  match readChomping cursor with
  | (some chomping, behind) =>
    let (increment, next) ← readIncrement start behind
    return (chomping, increment, next)
  | (none, _) =>
    let (increment, behind) ← readIncrement start cursor
    let (chomping, next) := if increment.isSome then readChomping behind else (none, behind)
    return (chomping.getD .clip, increment, next)

/-- The empty lines in front of a line of a block scalar. -/
structure EmptyLines where
  breaks : List Char
  /-- The greatest indentation among the lines seen. -/
  deepest : Nat
  /-- The place behind the last line break. -/
  stop : Mark

/-- Read indentation and empty lines up to the next line with text.  Without a known indentation,
all leading spaces count as indentation. -/
def readEmptyLines (indent? : Option Nat) (start : Mark) (cursor : Cursor) :
    Except SyntaxError (EmptyLines × Cursor) :=
  Cursor.repeatStep (fun (lines : EmptyLines) cursor =>
    let isShort (column : Nat) : Bool := indent?.all (column < ·)
    let spaces := (cursor.rest.takeWhile (· == ' ')).length
    let wanted :=
      match indent? with
      | none => spaces
      | some indent => min spaces (indent - cursor.mark.column)
    let behind := cursor.skip wanted
    let deepest := max lines.deepest behind.mark.column
    if isShort behind.mark.column && behind.startsWith '\t' then
      .error (.during .tabInIndentation behind.mark .blockScalar start)
    else if behind.atBreak then
      let (lineBreak, next) := behind.readBreak
      .ok (.more ⟨lines.breaks ++ lineBreak, deepest, next.mark⟩ next)
    else .ok (.done { lines with deepest := deepest } behind))
    ⟨[], 0, cursor.mark⟩ cursor

/-- A block scalar while it is read. -/
structure BlockState where
  text : List Char
  leadingBreak : List Char
  trailingBreaks : List Char
  /-- Whether the last line began with white space. -/
  leadingBlank : Bool
  stop : Mark

/-- The text of a block scalar up to its next line: breaks are folded unless the scalar is literal
or one of the lines around them begins with white space. -/
def BlockState.joined (literal : Bool) (state : BlockState) (nextBlank : Bool) : List Char :=
  let first :=
    if !literal && state.leadingBreak.head? == some '\n' && !state.leadingBlank && !nextBlank then
      (if state.trailingBreaks.isEmpty then [' '] else [])
    else state.leadingBreak
  state.text ++ first ++ state.trailingBreaks

/-- Read one line of a block scalar and the empty lines behind it. -/
def blockStep (literal : Bool) (indent : Nat) (start : Mark) (state : BlockState)
    (cursor : Cursor) : Except SyntaxError (Cursor.Progress BlockState) :=
  if cursor.mark.column ≠ indent ∨ cursor.atEnd then .ok (.done state cursor)
  else do
    let blank := cursor.atBlank
    let (line, behind) := cursor.span (!isBreak ·)
    let (lineBreak, next) := behind.readBreak
    let (lines, next) ← readEmptyLines (some indent) start next
    return .more ⟨state.joined literal blank ++ line, lineBreak, lines.breaks, blank, lines.stop⟩
      next

/-- Read a block scalar inside a block of the given indentation, which is negative at the top. -/
def readBlock (literal : Bool) (parentIndent : Int) (cursor : Cursor) :
    Except SyntaxError (Token × Cursor) := do
  let start := cursor.mark
  let (chomping, increment, behind) ← readBlockHeader start (cursor.skip 1)
  let behind := (behind.skipWhile isBlank).skipComment
  if !behind.atBreakOrEnd then
    throw (.during .missingBlockLineEnd behind.mark .blockScalar start)
  let known := increment.map (fun count => parentIndent.toNat + count)
  let (lines, next) ← readEmptyLines known start behind.skipBreak
  let indent := known.getD (max (max lines.deepest (parentIndent + 1).toNat) 1)
  let (state, next) ← Cursor.repeatStep (blockStep literal indent start)
    ⟨[], [], lines.breaks, false, lines.stop⟩ next
  let text := state.text ++
    (if chomping = .strip then [] else state.leadingBreak) ++
    (if chomping = .keep then state.trailingBreaks else [])
  return (ofScalar text (if literal then .literal else .folded) start state.stop, next)

end Token

end RestModel.Yaml

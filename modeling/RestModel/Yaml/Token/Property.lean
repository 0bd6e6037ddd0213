import RestModel.Text.Numeral
import RestModel.Yaml.Error
import RestModel.Yaml.Token

/-!
# Directives, anchors and tags

The tokens that say something about a document or a node without being content.
-/

namespace RestModel.Yaml.Token

/-! ## Anchors -/

/-- Whether a name may end in front of a character. -/
def endsAnchor (char : Char) : Bool :=
  isBlank char || isBreak char || "?:,]\x7d%@\x60".toList.contains char

/-- Read an anchor or an alias. -/
def readAnchor (isAlias : Bool) (cursor : Cursor) : Except SyntaxError (Token × Cursor) :=
  let (name, next) := (cursor.skip 1).span isWordChar
  if name.isEmpty || !Cursor.endsOr endsAnchor next.peek? then
    .error (.during .badAnchorName next.mark (if isAlias then .aliasNode else .anchor) cursor.mark)
  else
    let text := String.ofList name
    .ok (⟨if isAlias then .aliasNode text else .anchor text, cursor.mark, next.mark⟩, next)

/-! ## Tags -/

/-- Whether a character may stand in a tag; `verbatim` admits three more. -/
def isUriChar (verbatim : Bool) (char : Char) : Bool :=
  isWordChar char || ";/?:@&=+$.%!~*'()".toList.contains char ||
    (verbatim && ",[]".toList.contains char)

/-- The number of octets of a character that begins with the given one. -/
def octetCount? (octet : Nat) : Option Nat :=
  if octet < 0x80 then some 1
  else if octet < 0xC0 then none
  else if octet < 0xE0 then some 2
  else if octet < 0xF0 then some 3
  else if octet < 0xF8 then some 4
  else none

/-- The octet that a percent sign and two hexadecimal digits stand for. -/
def octet? (cursor : Cursor) : Option Nat :=
  if cursor.startsWith '%' then do
    let high ← (cursor.peekAt? 1).bind (Text.digitValue? 16)
    let low ← (cursor.peekAt? 2).bind (Text.digitValue? 16)
    return high * 16 + low
  else none

/-- Read the octets of a character behind its first ones. -/
def readTrailingOctets (fail : Problem → Cursor → SyntaxError) :
    Nat → Cursor → Except SyntaxError (List UInt8 × Cursor)
  | 0, cursor => .ok ([], cursor)
  | count + 1, cursor =>
    match octet? cursor with
    | none => .error (fail .badUriEscape cursor)
    | some octet =>
      if 0x80 ≤ octet ∧ octet < 0xC0 then do
        let (others, next) ← readTrailingOctets fail count (cursor.skip 3)
        return (.ofNat octet :: others, next)
      else .error (fail .badUriTrailingOctet cursor)

/-- Read the escaped octets of one character.  Their first bits have to fit together, but the
character they stand for may be none that a text can hold. -/
def readUriEscape (fail : Problem → Cursor → SyntaxError) (cursor : Cursor) :
    Except SyntaxError (List UInt8 × Cursor) :=
  match octet? cursor with
  | none => .error (fail .badUriEscape cursor)
  | some octet =>
    match octetCount? octet with
    | none => .error (fail .badUriLeadingOctet cursor)
    | some count => do
      let (others, next) ← readTrailingOctets fail (count - 1) (cursor.skip 3)
      return (.ofNat octet :: others, next)

/-- Read the octets of a tag behind a beginning already read. -/
def readUri (verbatim : Bool) (context : Context) (start : Mark) (beginning : List UInt8)
    (cursor : Cursor) : Except SyntaxError (Tag × Cursor) := do
  let fail (problem : Problem) (place : Cursor) : SyntaxError :=
    .during problem place.mark context start
  let (uri, next) ← Cursor.repeatStep (fun uri cursor =>
    match cursor.peek? with
    | none => .ok (.done uri cursor)
    | some char =>
      if char == '%' then do
        let (escaped, next) ← readUriEscape fail cursor
        return .more (uri ++ escaped) next
      else if isUriChar verbatim char then
        .ok (.more (uri ++ String.utf8EncodeChar char) (cursor.skip 1))
      else .ok (.done uri cursor)) beginning cursor
  if uri.isEmpty then throw (fail .missingTagUri next)
  return (.ofOctets uri, next)

/-- Read what may be the handle of a tag: an exclamation mark, and a word with another one behind
it. -/
def readHandle (cursor : Cursor) : List Char × Cursor :=
  let (word, next) := (cursor.skip 1).span isWordChar
  if next.startsWith '!' then ('!' :: word ++ ['!'], next.skip 1) else ('!' :: word, next)

/-- Read a tag between angle brackets. -/
def readVerbatimTag (cursor : Cursor) : Except SyntaxError (String × Tag × Cursor) := do
  let (uri, next) ← readUri true .tagUri cursor.mark [] (cursor.skip 2)
  if next.startsWith '>' then return ("", uri, next.skip 1)
  else throw (.during .missingTagBracket next.mark .tagScan cursor.mark)

/-- Read a tag with a handle, or with a single exclamation mark in its place.  A lone exclamation
mark is a tag of its own. -/
def readShortTag (cursor : Cursor) : Except SyntaxError (String × Tag × Cursor) := do
  let (handle, behind) := readHandle cursor
  if 1 < handle.length ∧ handle.getLast? = some '!' then
    let (suffix, next) ← readUri false .tagUri cursor.mark [] behind
    return (String.ofList handle, suffix, next)
  else
    let beginning := Tag.ofText (String.ofList handle)
    let (whole, next) ← readUri false .tagUri cursor.mark beginning.octets behind
    return if whole = .mark then ("", whole, next) else ("!", ⟨whole.octets.drop 1⟩, next)

/-- Read a tag. -/
def readTag (inFlow : Bool) (cursor : Cursor) : Except SyntaxError (Token × Cursor) := do
  let (handle, suffix, next) ←
    if cursor.peekAt? 1 = some '<' then readVerbatimTag cursor else readShortTag cursor
  if next.blankOrEndAt 0 || (inFlow && next.startsWith ',') then
    return (⟨.tag handle suffix, cursor.mark, next.mark⟩, next)
  else throw (.during .missingLineEnd next.mark .tagScan cursor.mark)

/-! ## Directives -/

/-- Read a number of a version, of nine digits at most. -/
def readVersionNumber (start : Mark) (cursor : Cursor) : Except SyntaxError (Nat × Cursor) :=
  let (digits, next) := cursor.span Char.isDigit
  if 9 < digits.length then
    .error (.during .longVersionNumber (cursor.skip 9).mark .versionDirective start)
  else if digits.isEmpty then
    .error (.during .missingVersionNumber next.mark .versionDirective start)
  else
    .ok (digits.foldl (fun value digit => value * 10 + (digit.toNat - '0'.toNat)) 0, next)

/-- Read the version that a directive names. -/
def readVersion (start : Mark) (cursor : Cursor) : Except SyntaxError (TokenKind × Cursor) := do
  let (major, behind) ← readVersionNumber start (cursor.skipWhile isBlank)
  if !behind.startsWith '.' then
    throw (.during .missingVersionDot behind.mark .versionDirective start)
  let (minor, next) ← readVersionNumber start (behind.skip 1)
  return (.versionDirective major minor, next)

/-- Read the handle of a tag directive and the beginning of the tags it stands for. -/
def readTagDirective (start : Mark) (cursor : Cursor) :
    Except SyntaxError (TokenKind × Cursor) := do
  let cursor := cursor.skipWhile isBlank
  if !cursor.startsWith '!' then
    throw (.during .missingTagMark cursor.mark .tagDirectiveHandle start)
  let (handle, behind) := readHandle cursor
  if handle.getLast? ≠ some '!' then
    throw (.during .missingTagMark behind.mark .tagDirectiveName start)
  if !behind.atBlank then
    throw (.during .missingWhitespace behind.mark .tagDirectiveScan start)
  let (uri, next) ← readUri true .tagDirectiveUri start [] (behind.skipWhile isBlank)
  if !next.blankOrEndAt 0 then
    throw (.during .missingLineEnd next.mark .tagDirectiveScan start)
  return (.tagDirective (String.ofList handle) uri, next)

/-- Read a directive with the rest of its line. -/
def readDirective (cursor : Cursor) : Except SyntaxError (Token × Cursor) := do
  let start := cursor.mark
  let (name, behind) := (cursor.skip 1).span isWordChar
  if name.isEmpty then
    throw (.during .missingDirectiveName behind.mark .directive start)
  if !behind.blankOrEndAt 0 then
    throw (.during .badDirectiveName behind.mark .directive start)
  let (kind, next) ←
    if name = "YAML".toList then readVersion start behind
    else if name = "TAG".toList then readTagDirective start behind
    else throw (.during .unknownDirective behind.mark .directive start)
  let lineEnd := (next.skipWhile isBlank).skipComment
  if lineEnd.atBreakOrEnd then return (⟨kind, start, next.mark⟩, lineEnd.skipBreak)
  else throw (.during .missingDirectiveEnd lineEnd.mark .directive start)

end RestModel.Yaml.Token

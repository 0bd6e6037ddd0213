import RestModel.Text.Size
import RestModel.Xml.Error

/-!
# Entities

Character data stands for text in which references are replaced: the five predefined entities and
characters given by their number.  A reference begins with an ampersand and ends with the next
semicolon; a second ampersand before that semicolon leaves it without an end.
-/

namespace RestModel.Xml

/-- The predefined entities. -/
def predefinedEntities : List (List Char × Char) := [
  ("lt".toList, '<'), ("gt".toList, '>'), ("amp".toList, '&'), ("apos".toList, '\''),
  ("quot".toList, '"')]

/-- The character with a number, written in decimal or behind `x` in hexadecimal digits. -/
def numberedChar (numeral : List Char) : Except CharRefError Char :=
  let (radix, digits) :=
    match numeral with
    | 'x' :: digits => (16, digits)
    | _ => (10, numeral)
  if digits.head? = some '+' ∨ digits.head? = some '-' then .error .unexpectedSign
  else
    match Text.readNumeral radix Text.limit32 digits with
    | .error error => .error (.invalidNumber error)
    | .ok code =>
      if code = 0 then .error .nul
      else if code.isValidChar then .ok (Char.ofNat code)
      else .error (.invalidCodepoint code)

/-- The character for which a reference stands, given the text between its ampersand and its
semicolon and the byte offsets of that text. -/
def referencedChar (start stop : Nat) : List Char → Except EscapeError Char
  | '#' :: numeral => (numberedChar numeral).mapError .invalidCharRef
  | name =>
    match predefinedEntities.lookup name with
    | some char => .ok char
    | none => .error (.unrecognized start stop (String.ofList name))

/-- Replace the references of a text of `total` bytes from a byte offset on.  Inside a reference,
`pending` holds the offset of its ampersand and the characters read since. -/
def unescapeFrom (total : Nat) :
    Nat → Option (Nat × List Char) → List Char → Except EscapeError (List Char)
  | _, none, [] => .ok []
  | position, none, char :: rest =>
    if char = '&' then unescapeFrom total (position + 1) (some (position, [])) rest
    else do
      let others ← unescapeFrom total (position + char.utf8Size) none rest
      return char :: others
  | _, some (start, _), [] => .error (.unterminated start total)
  | position, some (start, name), char :: rest =>
    if char = '&' then .error (.unterminated start total)
    else if char = ';' then do
      let replaced ← referencedChar (start + 1) position name
      let others ← unescapeFrom total (position + 1) none rest
      return replaced :: others
    else unescapeFrom total (position + char.utf8Size) (some (start, name ++ [char])) rest

/-- Replace the references of a text. -/
def unescape (text : List Char) : Except EscapeError (List Char) :=
  unescapeFrom (Text.byteSize text) 0 none text

end RestModel.Xml

import RestModel.Text.Uppercase

/-!
# Names

Schema names are hyphenated and may carry a namespace prefix.  This module drops the prefix, turns a
hyphenated name into one camel-case word, and derives the keys and values of enumeration members.
-/

namespace RestModel.Naming

/-- The part of a qualified name behind its last colon; all of it when it has none. -/
def localChars (qualified : List Char) : List Char :=
  (qualified.reverse.takeWhile (· != ':')).reverse

/-- The local part of a qualified name: `plcm-user:plcm-role` is `plcm-role`. -/
def localPart (qualified : String) : String :=
  String.ofList (localChars qualified.toList)

/-- Drop each hyphen and upper-case the character behind it, whatever it is; a final hyphen
stays. -/
def camelChars : List Char → List Char
  | [] => []
  | ['-'] => ['-']
  | '-' :: next :: rest => Text.upper next ++ camelChars rest
  | char :: rest => char :: camelChars rest

/-- The camel-case form of a hyphenated name.  Only hyphens separate words, so `conf_room` stays. -/
def camelCase (name : String) : String :=
  String.ofList (camelChars name.toList)

/-- Upper-case the first character. -/
def capitalChars : List Char → List Char
  | [] => []
  | first :: rest => Text.upper first ++ rest

/-- The text with its first character in upper case. -/
def capitalize (text : String) : String :=
  String.ofList (capitalChars text.toList)

/-- The value of the enumeration member for a literal: camel-case with a capital. -/
def enumValue (literal : String) : String :=
  capitalize (camelCase literal)

/-- A dot, a space or a slash, which cannot stand in the key of an enumeration member. -/
def isKeyBreak (char : Char) : Bool :=
  char == '.' || char == ' ' || char == '/'

/-- Replace the characters that cannot stand in a key, and guard a leading digit. -/
def keyChars (value : List Char) : List Char :=
  match value.map (fun char => if isKeyBreak char then '_' else char) with
  | [] => []
  | first :: rest => if first.isDigit then '_' :: first :: rest else first :: rest

/-- The key of the enumeration member with the given value. -/
def enumKey (value : String) : String :=
  String.ofList (keyChars value.toList)

/-- Whether a type reference names a built-in schema type. -/
def isPrimitive (raw : String) : Bool :=
  "xs:".toList.isPrefixOf raw.toList || "xsd:".toList.isPrefixOf raw.toList

/-- Whether a path segment is a parameter such as `{id}`. -/
def isParameter (segment : String) : Bool :=
  segment.toList.head? == some '\x7b'

end RestModel.Naming

namespace RestModel

/-- A schema name together with the identifier that stands for it in generated code. -/
structure Identifier where
  original : String
  camelCase : String
  deriving DecidableEq

/-- The identifier of a schema name. -/
def Identifier.ofName (name : String) : Identifier :=
  ⟨name, Naming.camelCase name⟩

end RestModel

/-!
# White space

The characters with the Unicode `White_Space` property, the text that remains when they are cut off
at both ends, and the words between them.  The zero-width space and the byte-order mark do not have
the property.
-/

namespace RestModel.Text

/-- Whether a character has the Unicode `White_Space` property. -/
def isBlank (char : Char) : Bool :=
  let code := char.toNat
  (9 ≤ code && code ≤ 13) || code == 0x20 || code == 0x85 || code == 0xA0 || code == 0x1680 ||
    (0x2000 ≤ code && code ≤ 0x200A) || code == 0x2028 || code == 0x2029 || code == 0x202F ||
    code == 0x205F || code == 0x3000

/-- The text without its longest ending of characters of a class. -/
def dropEndWhile (inClass : Char → Bool) (text : List Char) : List Char :=
  (text.reverse.dropWhile inClass).reverse

/-- The text without the white space at its two ends. -/
def trimChars (text : List Char) : List Char :=
  dropEndWhile isBlank (text.dropWhile isBlank)

/-- The text without the white space at its two ends. -/
def trim (text : String) : String :=
  String.ofList (trimChars text.toList)

/-- The maximal runs of characters other than white space, in order. -/
def words (text : String) : List String :=
  ((text.toList.splitOnP isBlank).filter (!·.isEmpty)).map String.ofList

/-- The first line of a text without the white space at its two ends; an empty text has no line. -/
def firstLine (text : String) : Option String :=
  if text.isEmpty then none else some (trim (String.ofList (text.toList.takeWhile (· != '\n'))))

end RestModel.Text

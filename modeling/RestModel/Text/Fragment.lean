/-!
# Fragments of a text

A fragment occurs in a text where the text goes on with the characters of the fragment.  Erasing a
fragment removes its occurrences from the left to the right; the next occurrence is looked for
behind the one just removed, so that two overlapping occurrences count once.
-/

namespace RestModel.Text

/-- Whether the fragment occurs somewhere in the text.  The empty fragment occurs everywhere. -/
def containsChars (fragment : List Char) : List Char → Bool
  | [] => fragment.isEmpty
  | char :: rest => fragment.isPrefixOf (char :: rest) || containsChars fragment rest

/-- Erase occurrences of the fragment after skipping `skip` characters of one found before. -/
def eraseCharsFrom (fragment : List Char) : Nat → List Char → List Char
  | _, [] => []
  | skip + 1, _ :: rest => eraseCharsFrom fragment skip rest
  | 0, char :: rest =>
    if !fragment.isEmpty && fragment.isPrefixOf (char :: rest) then
      eraseCharsFrom fragment (fragment.length - 1) rest
    else
      char :: eraseCharsFrom fragment 0 rest

/-- Whether the fragment occurs somewhere in the text. -/
def contains (fragment text : String) : Bool :=
  containsChars fragment.toList text.toList

/-- The text without the occurrences of the fragment. -/
def erase (fragment text : String) : String :=
  String.ofList (eraseCharsFrom fragment.toList 0 text.toList)

end RestModel.Text

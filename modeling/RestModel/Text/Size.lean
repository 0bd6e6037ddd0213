/-!
# Sizes in bytes

Positions in a text are counted in bytes of its UTF-8 form.
-/

namespace RestModel.Text

/-- The number of bytes of the UTF-8 form of a text. -/
def byteSize : List Char → Nat
  | [] => 0
  | char :: rest => char.utf8Size + byteSize rest

theorem byteSize_append (left right : List Char) :
    byteSize (left ++ right) = byteSize left + byteSize right := by
  induction left with
  | nil => simp [byteSize]
  | cons char rest ih => simp [byteSize, ih, Nat.add_assoc]

end RestModel.Text

import RestModel.Decimal.Shortest
import RestModel.Text.Numeral

/-!
# Meaning of plain scalars

A scalar without quotes may be null, a truth value or a number.  Everything else is text; so are
digits behind a leading zero and integers of more than 128 bits.
-/

namespace RestModel.Yaml

/-- What a plain scalar means. -/
inductive PlainValue where
  | null
  | bool (value : Bool)
  /-- An integer, with a word on its width where it needs more than 64 bits. -/
  | integer (value : Int) (width : String)
  /-- A number with a fraction or an exponent, or one that is not finite, as text. -/
  | float (text : String)
  | text
  deriving DecidableEq

namespace PlainValue

/-- Whether the text is null. -/
def isNull (text : String) : Bool :=
  ["null", "Null", "NULL", "~"].contains text

/-- The truth value for which a text stands. -/
def bool? (text : String) : Option Bool :=
  if ["true", "True", "TRUE"].contains text then some true
  else if ["false", "False", "FALSE"].contains text then some false
  else none

/-- Whether a text begins with a sign. -/
def hasSign (text : List Char) : Bool :=
  text.head? == some '+' || text.head? == some '-'

/-- Whether a text is made of digits behind a leading zero, with an optional sign. -/
def isPaddedDigits (text : List Char) : Bool :=
  let unsigned := if hasSign text then text.tail else text
  1 < unsigned.length && unsigned.head? == some '0' && unsigned.all Char.isDigit

/-- The radixes that a numeral can name, with the text in front of its digits. -/
def radixes : List (List Char × Nat) :=
  [("0x".toList, 16), ("0o".toList, 8), ("0b".toList, 2)]

/-- The value of digits up to a limit. -/
def digits? (radix limit : Nat) (digits : List Char) : Option Nat :=
  (Text.readNumeral radix limit digits).toOption

/-- The value of an unsigned numeral that names its radix, up to a limit. -/
def inRadix? (limit : Nat) (unsigned : List Char) : Option Nat :=
  radixes.findSome? (fun (mark, radix) =>
    (mark.isPrefixOf? unsigned).bind (digits? radix limit))

/-- The value of a numeral without a minus, up to a limit. -/
def natural? (limit : Nat) (text : List Char) : Option Nat :=
  let unsigned := if text.head? = some '+' then text.tail else text
  inRadix? limit unsigned <|>
    if hasSign unsigned || isPaddedDigits text then none else digits? 10 limit unsigned

/-- The value of a numeral with a minus, down to a limit. -/
def negative? (limit : Nat) (text : List Char) : Option Int :=
  match text with
  | '-' :: unsigned =>
    let value? := inRadix? limit unsigned <|>
      if isPaddedDigits text then none else digits? 10 limit unsigned
    value?.map (fun value => -(value : Int))
  | _ => none

/-- The integer for which a text stands. -/
def integer? (text : List Char) : Option PlainValue :=
  (natural? (Nat.pow 2 64 - 1) text).map (fun value => integer value "") <|>
  (negative? (Nat.pow 2 63) text).map (integer · "") <|>
  (natural? (Nat.pow 2 128 - 1) text).map (fun value => integer value " as u128") <|>
  (negative? (Nat.pow 2 127) text).map (integer · " as i128")

/-- The text of the number with a fraction or an exponent for which a text stands. -/
def float? (text : String) : Option String :=
  let signed := text.toList
  let unsigned := if signed.head? = some '+' then signed.tail else signed
  let name := String.ofList unsigned
  if signed.head? = some '+' && hasSign unsigned then none
  else if [".inf", ".Inf", ".INF"].contains name then some "inf"
  else if ["-.inf", "-.Inf", "-.INF"].contains text then some "-inf"
  else if [".nan", ".NaN", ".NAN"].contains text then some "NaN"
  else (Decimal.parse? unsigned).bind Decimal.shortestText?

/-- What the text of a plain scalar means. -/
def ofText (text : String) : PlainValue :=
  if text.isEmpty || isNull text then null
  else
    match bool? text with
    | some value => bool value
    | none =>
      match integer? text.toList with
      | some value => value
      | none =>
        if isPaddedDigits text.toList then .text
        else
          match float? text with
          | some shown => float shown
          | none => .text

end PlainValue

end RestModel.Yaml

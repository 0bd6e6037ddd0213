import RestModel.Text.Numeral
import RestModel.Xml.Element

/-!
# Cardinality

How often an element of a sequence may occur.  A bound that is missing or is no number counts as
one.
-/

namespace RestModel.Schema

/-- The cardinality of an element of a sequence; without a `max` there is no upper bound. -/
structure Occurrence where
  min : Nat
  max : Option Nat
  deriving DecidableEq

namespace Occurrence

/-- A bound written in decimal digits, with an optional plus sign. -/
def bound? (text : String) : Option Nat :=
  let digits :=
    match text.toList with
    | '+' :: digits => digits
    | digits => digits
  (Text.readNumeral 10 Text.limit32 digits).toOption

/-- The cardinality that the attributes of an element declare. -/
def ofElement (element : Xml.Element) : Occurrence where
  min := ((element.attribute? "minOccurs").bind bound?).getD 1
  max :=
    match element.attribute? "maxOccurs" with
    | none => some 1
    | some text => if text = "unbounded" then none else some ((bound? text).getD 1)

end Occurrence

end RestModel.Schema

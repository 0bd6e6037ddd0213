/-!
# Reports

What a report says: texts, counts and nothing, in lists and in records with named fields.
-/

namespace RestModel.Report

/-- A part of a report. -/
inductive Value where
  | nothing
  | count (number : Nat)
  | text (content : String)
  | list (items : List Value)
  /-- Named fields, in the order in which they are shown. -/
  | record (fields : List (String × Value))

namespace Value

/-- A list of texts. -/
def texts (contents : List String) : Value :=
  .list (contents.map .text)

/-- A part that may be missing. -/
def optional {α : Type} (show? : α → Value) : Option α → Value
  | some present => show? present
  | none => .nothing

end Value

end RestModel.Report

import RestModel.JavaScript.Source

/-!
# Enumerations

An enumeration is an object with one string for each key.  Server code exports it.
-/

namespace RestModel.JavaScript

/-- The entry of an enumeration member. -/
def variantEntry (variant : Variant) : String :=
  variant.key ++ " : \"" ++ variant.value ++ "\""

/-- The object of an enumeration, as a module or bare. -/
def enumerationText (enumeration : Enumeration) (asModule : Bool) : String :=
  let name := enumeration.name.camelCase
  block [
    onlyIf asModule (line moduleStatement),
    line ("var " ++ name ++ " = \x7b"),
    line ("  " ++ ",\n  ".intercalate (enumeration.variants.map variantEntry)),
    line "\x7d;",
    line "",
    onlyIf asModule (line (exportStatement name))]

end RestModel.JavaScript

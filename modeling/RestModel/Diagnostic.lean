import RestModel.Endpoint

/-!
# Diagnostics

Anomalies that a compilation reports without stopping.
-/

namespace RestModel

/-- A recoverable anomaly of a compilation. -/
inductive Diagnostic where
  /-- Two endpoints of one collection have the same suffix and need a name given by hand. -/
  | suffixCollision (collision : Collision)
  /-- A resource description refers to an element for which no type is registered. -/
  | unregisteredReference (document path element : String)
  deriving DecidableEq

/-- The text of a diagnostic. -/
def Diagnostic.message : Diagnostic → String
  | suffixCollision collision =>
    "collection " ++ collision.typeName ++ ": " ++ collision.firstPath ++ " and " ++
      collision.secondPath ++ " both map to suffix \"" ++ collision.suffix ++ "\""
  | unregisteredReference document path element =>
    document ++ ": " ++ path ++ " references unregistered type " ++ element

end RestModel

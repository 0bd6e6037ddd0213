import RestModel.JavaScript.Output
import RestModel.Notice

/-!
# Notices of generating files

What generating files tells about the types that get none.
-/

namespace RestModel.JavaScript

/-- The notices for a record without a server module. -/
def memberlessNotices (record : Record) : List Notice :=
  if record.constructor.isSome then []
  else [⟨.info, .generator, record.name.original ++ " has no members; skipping constructor"⟩]

/-- The notices of generating the server modules of a described type. -/
def serverNotices : Descriptor → List Notice
  | .enumeration _ => []
  | .record record => (withListType record).flatMap memberlessNotices

/-- The notices of generating the client file of a described type. -/
def clientNotices : Descriptor → List Notice
  | .enumeration _ => []
  | .record record =>
    if record.model.isSome then []
    else [⟨.debug, .generator, record.name.original ++ " has no paths; no model generated"⟩]

end RestModel.JavaScript

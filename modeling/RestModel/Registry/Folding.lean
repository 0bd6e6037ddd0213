import RestModel.Registry.Basic
import RestModel.Text.Blank
import RestModel.Text.Fragment

/-!
# Folding list types

A list type such as `plcm-user-list` accompanies the type it lists.  It is found by its name, which
holds the list suffix, and by its shape.  It then leaves the registry and becomes the collection of
the listed type.  A type holds one collection at most: the first list type that fits is taken, and
later ones remain types of their own.
-/

namespace RestModel

/-- Whether a type has the shape of a list of another one: the other type lies on some path, the
list can be read on some path, and it has a member named after the other type or referring to it. -/
def TypeDef.listsType (list singular : TypeDef) (readMethod : String) : Bool :=
  singular.hasPaths && decide (0 < list.methodCount readMethod) &&
    (list.hasMember singular.name ||
      (list.members.values.filterMap TypeRef.id?).any (· == singular.name))

/-- A list type and the type that takes it as its collection, by name. -/
structure Fold where
  list : String
  singular : String
  deriving DecidableEq

namespace Registry

/-- What becomes of one type when list types are looked for. -/
inductive FoldChoice where
  /-- The type is no list of a registered type. -/
  | unrelated
  /-- The type may list the named one, which already has a collection. -/
  | taken (singular : String)
  /-- The type becomes the collection of the named one. -/
  | fold (singular : String)

/-- The name of the type that a list type would list: its name without the list suffix. -/
def singularName (suffix name : String) : String :=
  Text.trim (Text.erase suffix name)

/-- What becomes of a type when the named types already received a collection. -/
def foldChoice (registry : Registry) (suffix readMethod : String) (claimed : List String)
    (list : TypeDef) : FoldChoice :=
  let name := singularName suffix list.name
  if !Text.contains suffix list.name || Text.contains suffix name then .unrelated
  else
    match registry.get? name with
    | none => .unrelated
    | some singular =>
      if singular.name = list.name then .unrelated
      else if singular.collection.isSome || claimed.contains name then .taken name
      else if list.listsType singular readMethod then .fold name
      else .unrelated

/-- The list types among `types` that are folded, each with the type that takes it, when the types
named in `claimed` already received a collection. -/
def foldsFrom (registry : Registry) (suffix readMethod : String) :
    List String → List TypeDef → List Fold
  | _, [] => []
  | claimed, list :: rest =>
    match registry.foldChoice suffix readMethod claimed list with
    | .fold singular =>
      ⟨list.name, singular⟩ :: foldsFrom registry suffix readMethod (singular :: claimed) rest
    | _ => foldsFrom registry suffix readMethod claimed rest

/-- The list types that are folded, each with the type that takes it, in registry order. -/
def folds (registry : Registry) (suffix readMethod : String) : List Fold :=
  if suffix = "" then [] else registry.foldsFrom suffix readMethod [] registry.types

/-- Move one list type out of the registry and into the type that takes it. -/
def applyFold (registry : Registry) (fold : Fold) : Registry :=
  match registry.get? fold.list with
  | none => registry
  | some list => (registry.erase fold.list).attachCollection fold.singular list

/-- Fold the list types into the types they list. -/
def foldLists (registry : Registry) (suffix readMethod : String) : Registry :=
  (registry.folds suffix readMethod).foldl applyFold registry

end Registry

end RestModel

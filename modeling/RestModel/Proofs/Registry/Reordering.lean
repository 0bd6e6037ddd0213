import Mathlib.Algebra.BigOperators.Group.List.Basic
import RestModel.Proofs.Registry.Resolution

/-!
# Registries that differ in order

Two registries may hold the same types in different orders.  Declaring methods, looking up
references and counting what stays unresolved read a registry by name only, so they respect that
difference.  Folding goes by the order as well, since the first list type that fits is taken; but
where no type has two list types by name, that order does not matter either.
-/

namespace RestModel.Registry

/-- The registries hold the same types, perhaps in different orders. -/
def SameTypes (left right : Registry) : Prop :=
  left.types.Perm right.types

/-- No two of the names that hold the suffix are the same without it. -/
def HasDistinctSingulars (suffix : String) (names : List String) : Prop :=
  ((names.filter (Text.contains suffix)).map (singularName suffix)).Nodup

instance (suffix : String) (names : List String) : Decidable (HasDistinctSingulars suffix names) :=
  inferInstanceAs (Decidable (List.Nodup _))

theorem HasDistinctSingulars.perm {suffix : String} {names others : List String}
    (hperm : names.Perm others) (hdistinct : HasDistinctSingulars suffix names) :
    HasDistinctSingulars suffix others :=
  ((hperm.filter _).map _).nodup hdistinct

namespace SameTypes

variable {left right : Registry} {suffix readMethod : String}

theorem names (hsame : left.SameTypes right) : left.names.Perm right.names :=
  List.Perm.map TypeDef.name hsame

theorem contains_eq (hsame : left.SameTypes right) : left.contains = right.contains := by
  funext name
  exact List.Perm.any_eq hsame

theorem get?_eq (hsame : left.SameTypes right) (name : String) :
    left.get? name = right.get? name :=
  find?_name_perm hsame left.nodup

theorem mapTypes (hsame : left.SameTypes right) (f : TypeDef → TypeDef)
    (keeps : ∀ type, (f type).name = type.name) :
    (left.mapTypes f keeps).SameTypes (right.mapTypes f keeps) :=
  List.Perm.map f hsame

theorem addMethod (hsame : left.SameTypes right) (name method path : String) :
    (left.addMethod name method path).SameTypes (right.addMethod name method path) :=
  hsame.mapTypes _ _

theorem resolve (hsame : left.SameTypes right) : left.resolve.SameTypes right.resolve := by
  rw [SameTypes, types_resolve, types_resolve, hsame.contains_eq]
  exact List.Perm.map _ hsame

theorem danglingCount_eq (hsame : left.SameTypes right) :
    left.danglingCount = right.danglingCount := by
  have hsum : ∀ registry : Registry, registry.danglingCount =
      (registry.types.map (TypeDef.danglingCount registry.contains)).sum := by
    intro registry
    rw [danglingCount, List.sum_eq_foldr, List.foldr_map]
  rw [hsum, hsum, hsame.contains_eq]
  exact (List.Perm.map _ hsame).sum_eq

/-! ## Folding -/

theorem firstList?_eq (hsame : left.SameTypes right)
    (hdistinct : HasDistinctSingulars suffix left.names) (singular : TypeDef) :
    left.firstList? suffix readMethod singular = right.firstList? suffix readMethod singular := by
  apply find?_perm_of_unique hsame
  intro list hlist other hother htake htakeOther
  have hmarked : ∀ type ∈ left.types, singular.mayTake suffix readMethod type = true →
      type.name ∈ left.names.filter (Text.contains suffix) := by
    intro type hmem hmay
    exact List.mem_filter.mpr ⟨name_mem_names hmem, TypeDef.contains_of_mayTake hmay⟩
  apply eq_of_name_eq hlist hother
  apply List.inj_on_of_nodup_map hdistinct (hmarked list hlist htake)
    (hmarked other hother htakeOther)
  rw [TypeDef.singularName_of_mayTake htake, TypeDef.singularName_of_mayTake htakeOther]

theorem foldLists (hsame : left.SameTypes right)
    (hdistinct : HasDistinctSingulars suffix left.names) :
    (left.foldLists suffix readMethod).SameTypes (right.foldLists suffix readMethod) := by
  have hfirst : left.firstList? suffix readMethod = right.firstList? suffix readMethod :=
    funext (hsame.firstList?_eq hdistinct)
  have hfolded : left.isFolded suffix readMethod = right.isFolded suffix readMethod := by
    funext list
    rw [isFolded, isFolded, hfirst]
    exact List.Perm.any_eq hsame
  rw [SameTypes, types_foldLists, types_foldLists, hfirst, hfolded]
  exact (List.Perm.filter _ hsame).map _

theorem folded (hsame : left.SameTypes right) : left.folded.Perm right.folded :=
  List.Perm.filterMap TypeDef.collection hsame

theorem lookup_eq (hsame : left.SameTypes right)
    (hnodup : (left.allTypes.map TypeDef.name).Nodup) (name : String) :
    left.lookup name = right.lookup name := by
  rw [lookup_eq_find?, lookup_eq_find?]
  exact find?_name_perm (List.Perm.append hsame hsame.folded) hnodup

end SameTypes

end RestModel.Registry

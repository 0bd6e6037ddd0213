import Mathlib.Data.List.Forall2
import Mathlib.Data.Option.Basic
import RestModel.Proofs.Registry.Resolution

/-!
# What becomes of each reference

The lookup rewrites exactly the open references, those that are unresolved and name no built-in
type.  The name behind the prefix of the type is tried before the local name, and a reference stays
open if neither is registered.  The count of the lookup is the number of references that stay open,
so a second lookup changes and counts nothing else.
-/

namespace RestModel

namespace TypeRef

/-- Whether the reference is unresolved and does not name a built-in type. -/
def isOpen : TypeRef → Bool
  | unresolved raw => !Naming.isPrimitive raw
  | _ => false

/-- What the lookup makes of a reference in a type with a prefix, when some names are registered. -/
inductive LooksUp (names : List String) (namePrefix : String) : TypeRef → TypeRef → Prop where
  | closed {ref : TypeRef} (hclosed : ref.isOpen = false) : LooksUp names namePrefix ref ref
  | prefixed {raw : String} (hopen : (unresolved raw).isOpen = true) (hforeign : namePrefix ≠ "")
      (hknown : namePrefix ++ Naming.localPart raw ∈ names) :
      LooksUp names namePrefix (unresolved raw)
        (resolved (namePrefix ++ Naming.localPart raw) raw)
  | plain {raw : String} (hopen : (unresolved raw).isOpen = true)
      (hother : namePrefix = "" ∨ namePrefix ++ Naming.localPart raw ∉ names)
      (hknown : Naming.localPart raw ∈ names) :
      LooksUp names namePrefix (unresolved raw) (resolved (Naming.localPart raw) raw)
  | missing {raw : String} (hopen : (unresolved raw).isOpen = true)
      (hother : namePrefix = "" ∨ namePrefix ++ Naming.localPart raw ∉ names)
      (hunknown : Naming.localPart raw ∉ names) :
      LooksUp names namePrefix (unresolved raw) (unresolved raw)

variable {known : String → Bool} {namePrefix : String}

theorem looksUp_resolve {names : List String}
    (hknown : ∀ name, known name = true ↔ name ∈ names) (ref : TypeRef) :
    LooksUp names namePrefix ref (ref.resolve known namePrefix) := by
  cases ref with
  | resolved id raw => exact .closed rfl
  | literal value => exact .closed rfl
  | unresolved raw =>
      rw [resolve]
      split
      · next hprimitive => exact .closed (by rw [isOpen, hprimitive, Bool.not_true])
      · next hforeign =>
        have hopen : (unresolved raw).isOpen = true := by
          rw [isOpen, Bool.not_eq_true', ← Bool.not_eq_true]
          exact hforeign
        simp only [target?, hknown]
        by_cases hprefixed :
            namePrefix ≠ "" ∧ namePrefix ++ Naming.localPart raw ∈ names
        · rw [if_pos hprefixed]
          exact .prefixed hopen hprefixed.1 hprefixed.2
        · have hother : namePrefix = "" ∨ namePrefix ++ Naming.localPart raw ∉ names :=
            (not_and_or.mp hprefixed).imp_left not_not.mp
          rw [if_neg hprefixed]
          by_cases hlocal : Naming.localPart raw ∈ names
          · rw [if_pos hlocal]
            exact .plain hopen hother hlocal
          · rw [if_neg hlocal]
            exact .missing hopen hother hlocal

/-- Exactly the dangling references stay open. -/
theorem isOpen_resolve (ref : TypeRef) :
    (ref.resolve known namePrefix).isOpen = ref.isDangling known namePrefix := by
  cases ref with
  | resolved id raw => rfl
  | literal value => rfl
  | unresolved raw =>
      rw [resolve, isDangling]
      cases hprimitive : Naming.isPrimitive raw with
      | true => simp [isOpen, hprimitive]
      | false => cases htarget : target? known namePrefix raw <;> simp [isOpen, hprimitive]

/-- A second lookup finds nothing new. -/
theorem resolve_resolve (ref : TypeRef) :
    (ref.resolve known namePrefix).resolve known namePrefix = ref.resolve known namePrefix := by
  cases ref with
  | resolved id raw => rfl
  | literal value => rfl
  | unresolved raw =>
      cases hprimitive : Naming.isPrimitive raw with
      | true => simp [resolve, hprimitive]
      | false => cases htarget : target? known namePrefix raw <;> simp [resolve, hprimitive, htarget]

end TypeRef

/-- What the lookup makes of the base of a type. -/
inductive BaseType.LooksUp (names : List String) (namePrefix : String) :
    BaseType → BaseType → Prop where
  | listOfUnknown : LooksUp names namePrefix .listOfUnknown .listOfUnknown
  | named {before after : TypeRef} (href : before.LooksUp names namePrefix after) :
      LooksUp names namePrefix (.named before) (.named after)

namespace TypeDef

/-- What the lookup makes of a type: its members keep their names and their order, and beside
members and base nothing changes. -/
structure LooksUp (names : List String) (before after : TypeDef) : Prop where
  others : after = { before with members := after.members, base := after.base }
  members : List.Forall₂
    (fun old new => new.1 = old.1 ∧ old.2.LooksUp names before.namePrefix new.2)
    before.members.entries after.members.entries
  base : Option.Rel (BaseType.LooksUp names before.namePrefix) before.base after.base

variable {known : String → Bool}

theorem looksUp_resolve {names : List String}
    (hknown : ∀ name, known name = true ↔ name ∈ names) (type : TypeDef) :
    type.LooksUp names (type.resolve known) where
  others := rfl
  members := by
    rw [resolve, OrderedMap.mapValues, List.forall₂_map_right_iff, List.forall₂_same]
    intro entry _
    exact ⟨rfl, TypeRef.looksUp_resolve hknown entry.2⟩
  base := by
    rw [resolve]
    cases type.base with
    | none => exact .none
    | some base =>
        cases base with
        | listOfUnknown => exact .some .listOfUnknown
        | named target => exact .some (.named (TypeRef.looksUp_resolve hknown target))

theorem resolve_resolve (type : TypeDef) :
    (type.resolve known).resolve known = type.resolve known := by
  have hmembers : (type.members.mapValues (·.resolve known type.namePrefix)).mapValues
      (·.resolve known type.namePrefix) =
        type.members.mapValues (·.resolve known type.namePrefix) := by
    apply OrderedMap.ext
    simp only [OrderedMap.mapValues, List.map_map, Function.comp_def, TypeRef.resolve_resolve]
  have hbase : (type.base.map (·.resolve known type.namePrefix)).map
      (·.resolve known type.namePrefix) =
        type.base.map (·.resolve known type.namePrefix) := by
    cases type.base with
    | none => rfl
    | some base => cases base <;> simp [BaseType.resolve, TypeRef.resolve_resolve]
  simp only [resolve, hmembers, hbase]

/-- The count of a type is the number of its references that stay open. -/
theorem danglingCount_eq_countP (type : TypeDef) : type.danglingCount known =
    (type.resolve known).references.countP TypeRef.isOpen := by
  have hmembers : (type.danglingMembers known).length =
      type.members.values.countP (·.isDangling known type.namePrefix) := by
    rw [danglingMembers, ← List.countP_eq_length_filter, OrderedMap.values, List.countP_map]
    rfl
  have hbase : (type.danglingBase? known).toList.length =
      type.baseRef?.toList.countP (·.isDangling known type.namePrefix) := by
    rw [danglingBase?, Option.toList_filter, List.countP_eq_length_filter]
  rw [danglingCount, hmembers, hbase, ← List.countP_append, references_resolve, List.countP_map]
  apply List.countP_congr
  intro ref _
  rw [Function.comp_apply, TypeRef.isOpen_resolve]

end TypeDef

namespace Registry

theorem contains_resolve (registry : Registry) :
    registry.resolve.contains = registry.contains := by
  funext name
  rw [Bool.eq_iff_iff, contains_eq_true_iff, contains_eq_true_iff, names_resolve]

theorem resolve_resolve (registry : Registry) : registry.resolve.resolve = registry.resolve := by
  apply Registry.ext
  rw [types_resolve, contains_resolve, types_resolve, List.map_map]
  apply List.map_congr_left
  intro type _
  exact type.resolve_resolve

/-- The count of the lookup is the number of references that it leaves open. -/
theorem danglingCount_eq_countP (registry : Registry) : registry.danglingCount =
    (registry.resolve.types.flatMap TypeDef.references).countP TypeRef.isOpen := by
  rw [danglingCount, types_resolve]
  induction registry.types with
  | nil => rfl
  | cons type rest ih =>
      rw [List.foldr_cons, ih, List.map_cons, List.flatMap_cons, List.countP_append,
        TypeDef.danglingCount_eq_countP]

/-- The lookup goes through the registered types in order and rewrites their open references only,
each to the registered name behind the prefix of its type, or else to the registered local name.  It
counts the references that stay open, and a second lookup changes nothing and counts the same. -/
theorem resolve_rewrites_open_references (registry : Registry) :
    List.Forall₂ (TypeDef.LooksUp registry.names) registry.types registry.resolve.types ∧
    registry.danglingCount =
      (registry.resolve.types.flatMap TypeDef.references).countP TypeRef.isOpen ∧
    registry.resolve.resolve = registry.resolve ∧
    registry.resolve.danglingCount = registry.danglingCount := by
  refine ⟨?_, registry.danglingCount_eq_countP, registry.resolve_resolve, ?_⟩
  · rw [types_resolve, List.forall₂_map_right_iff, List.forall₂_same]
    intro type _
    exact type.looksUp_resolve fun _ => contains_eq_true_iff
  · rw [danglingCount_eq_countP, resolve_resolve, danglingCount_eq_countP]

end Registry

end RestModel

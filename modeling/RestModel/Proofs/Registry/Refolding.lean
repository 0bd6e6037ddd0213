import RestModel.Proofs.Registry.Folding

/-!
# Folding a folded registry

Folding leaves no registered type that could still take another one as its collection: a list type
that fits stands behind the one that was taken, or behind a collection that was there before.  A
registry of that kind is left as it is, so folding twice is folding once.
-/

namespace RestModel.Registry

variable {registry : Registry} {suffix readMethod : String}

/-- No registered type may take another one as its collection. -/
def IsFullyFolded (registry : Registry) (suffix readMethod : String) : Prop :=
  ∀ singular ∈ registry.types, ∀ list ∈ registry.types,
    singular.mayTake suffix readMethod list = false

theorem mem_types_foldLists {type : TypeDef} :
    type ∈ (registry.foldLists suffix readMethod).types ↔
      ∃ original ∈ registry.types, registry.isFolded suffix readMethod original = false ∧
        original.withList (registry.firstList? suffix readMethod original) = type := by
  rw [types_foldLists, List.mem_map]
  simp only [List.mem_filter, Bool.not_eq_true', and_assoc]

theorem firstList?_eq_none_iff {singular : TypeDef} :
    registry.firstList? suffix readMethod singular = none ↔
      ∀ list ∈ registry.types, singular.mayTake suffix readMethod list = false := by
  simp only [firstList?, List.find?_eq_none, Bool.not_eq_true]

theorem isFullyFolded_foldLists (registry : Registry) (suffix readMethod : String) :
    (registry.foldLists suffix readMethod).IsFullyFolded suffix readMethod := by
  intro taker htaker taken htaken
  obtain ⟨singular, -, -, rfl⟩ := mem_types_foldLists.mp htaker
  obtain ⟨list, hlist, -, rfl⟩ := mem_types_foldLists.mp htaken
  rw [Bool.eq_false_iff]
  intro htake
  -- Both types stand in the result as they stood in the registry.
  have hlistKept : registry.firstList? suffix readMethod list = none := by
    rw [firstList?_eq_none_iff]
    intro other _
    apply TypeDef.mayTake_eq_false_of_contains
    rw [← TypeDef.name_withList list (registry.firstList? suffix readMethod list)]
    exact TypeDef.contains_of_mayTake htake
  have hfree := (TypeDef.mayTake_iff.mp htake).2.2.2.1
  cases hfirst : registry.firstList? suffix readMethod singular with
  | some other =>
      rw [hfirst] at hfree
      exact absurd hfree (by simp [TypeDef.withList])
  | none =>
      rw [hfirst, hlistKept] at htake
      have hrefused := firstList?_eq_none_iff.mp hfirst list hlist
      rw [TypeDef.withList, TypeDef.withList, hrefused] at htake
      exact Bool.noConfusion htake

theorem foldLists_of_isFullyFolded (hfolded : registry.IsFullyFolded suffix readMethod) :
    registry.foldLists suffix readMethod = registry := by
  have hnone : ∀ type ∈ registry.types, registry.firstList? suffix readMethod type = none :=
    fun type hmem => firstList?_eq_none_iff.mpr (hfolded type hmem)
  have hkept : ∀ type ∈ registry.types, registry.isFolded suffix readMethod type = false := by
    intro type hmem
    rw [Bool.eq_false_iff, ne_eq, isFolded_iff hmem]
    rintro ⟨singular, hsingular, hfirst⟩
    rw [hnone singular hsingular] at hfirst
    exact absurd hfirst (by simp)
  have hall : registry.types.filter (fun type => !registry.isFolded suffix readMethod type) =
      registry.types := by
    rw [List.filter_eq_self]
    intro type hmem
    rw [hkept type hmem]
    rfl
  apply Registry.ext
  rw [types_foldLists, hall]
  apply map_eq_self
  intro type hmem
  rw [hnone type hmem]
  rfl

/-- Folding folds all that can be folded, so that folding its result again changes neither the types
nor their order. -/
theorem foldLists_foldLists (registry : Registry) (suffix readMethod : String) :
    (registry.foldLists suffix readMethod).IsFullyFolded suffix readMethod ∧
      (registry.foldLists suffix readMethod).foldLists suffix readMethod =
        registry.foldLists suffix readMethod := by
  have hfolded := isFullyFolded_foldLists registry suffix readMethod
  exact ⟨hfolded, foldLists_of_isFullyFolded hfolded⟩

end RestModel.Registry

import RestModel.Proofs.Registry.Folding
import RestModel.Proofs.Schema.Extraction

/-!
# What references lead to

Looking up references turns them into names of registered types only.  Folding moves types but loses
none, so that the names still lead somewhere afterwards.
-/

namespace RestModel

namespace TypeRef

variable {known : String → Bool} {namePrefix raw id : String}

theorem known_of_target? (htarget : target? known namePrefix raw = some id) : known id = true := by
  rw [target?] at htarget
  split at htarget
  · next hown =>
    injection htarget with hid
    exact hid ▸ hown.2
  · split at htarget
    · next hlocal =>
      injection htarget with hid
      exact hid ▸ hlocal
    · exact absurd htarget (by simp)

theorem target?_of_known (hknown : known (namePrefix ++ Naming.localPart raw) = true) :
    target? known namePrefix raw = some (namePrefix ++ Naming.localPart raw) := by
  rw [target?]
  by_cases hhome : namePrefix = ""
  · rw [hhome, String.empty_append] at hknown ⊢
    rw [if_neg (fun hforeign => hforeign.1 rfl), if_pos hknown]
  · rw [if_pos ⟨hhome, hknown⟩]

theorem id?_resolve_eq_target? (known : String → Bool) (namePrefix raw : String) :
    ((unresolved raw).resolve known namePrefix).id? =
      if Naming.isPrimitive raw then none else target? known namePrefix raw := by
  rw [resolve]
  split
  · rfl
  · cases target? known namePrefix raw <;> rfl

/-- A reference leads to the name behind its own prefix, if that name is known. -/
theorem id?_resolve_of_known (hforeign : Naming.isPrimitive raw = false)
    (hknown : known (namePrefix ++ Naming.localPart raw) = true) :
    ((unresolved raw).resolve known namePrefix).id? =
      some (namePrefix ++ Naming.localPart raw) := by
  rw [id?_resolve_eq_target?, hforeign, target?_of_known hknown]
  rfl

/-- A text stands for a known name if this is its local name behind the prefix, or without it as long
as the name behind the prefix is unknown. -/
theorem target?_eq_some_iff {name : String} (hname : known name = true) :
    target? known namePrefix raw = some name ↔
      name = namePrefix ++ Naming.localPart raw ∨
        name = Naming.localPart raw ∧ known (namePrefix ++ Naming.localPart raw) = false := by
  constructor
  · intro htarget
    rw [target?] at htarget
    split at htarget
    · exact Or.inl (Option.some.inj htarget).symm
    · next hother =>
      split at htarget
      · have hlocal := (Option.some.inj htarget).symm
        by_cases hhome : namePrefix = ""
        · rw [hhome, String.empty_append]
          exact Or.inl hlocal
        · exact Or.inr ⟨hlocal, eq_false_of_ne_true (fun hown => hother ⟨hhome, hown⟩)⟩
      · exact absurd htarget (by simp)
  · rintro (rfl | ⟨rfl, hunknown⟩)
    · exact target?_of_known hname
    · have hother : ¬ (namePrefix ≠ "" ∧ known (namePrefix ++ Naming.localPart raw) = true) :=
        fun hown => Bool.false_ne_true (hunknown.symm.trans hown.2)
      simp only [target?, if_neg hother, if_pos hname]

theorem id?_resolve_eq_some_iff {name : String} (hname : known name = true) :
    ((unresolved raw).resolve known namePrefix).id? = some name ↔
      Naming.isPrimitive raw = false ∧
        (name = namePrefix ++ Naming.localPart raw ∨
          name = Naming.localPart raw ∧ known (namePrefix ++ Naming.localPart raw) = false) := by
  rw [id?_resolve_eq_target?, ← target?_eq_some_iff hname]
  cases Naming.isPrimitive raw <;> simp

/-- Looking up a reference keeps its text. -/
theorem raw_resolve (known : String → Bool) (namePrefix : String) (ref : TypeRef) :
    (ref.resolve known namePrefix).raw = ref.raw := by
  cases ref with
  | resolved id raw => rfl
  | literal value => rfl
  | unresolved raw =>
      rw [resolve]
      split
      · rfl
      · cases target? known namePrefix raw <;> rfl

/-- A reference that leads to a name after the lookup led there before, or the name is known. -/
theorem id?_resolve {ref : TypeRef} (hid : (ref.resolve known namePrefix).id? = some id) :
    ref.id? = some id ∨ known id = true := by
  cases ref with
  | resolved other raw => exact Or.inl hid
  | literal value => exact Or.inl hid
  | unresolved raw =>
      rw [id?_resolve_eq_target?] at hid
      split at hid
      · exact absurd hid (by simp)
      · exact Or.inr (known_of_target? hid)

end TypeRef

namespace TypeDef

theorem baseRef?_resolve (known : String → Bool) (type : TypeDef) :
    (type.resolve known).baseRef? = type.baseRef?.map (·.resolve known type.namePrefix) := by
  cases hbase : type.base with
  | none => simp [baseRef?, resolve, hbase]
  | some base => cases base <;> simp [baseRef?, resolve, hbase, BaseType.resolve]

theorem references_resolve (known : String → Bool) (type : TypeDef) :
    (type.resolve known).references =
      type.references.map (·.resolve known type.namePrefix) := by
  rw [references, references, List.map_append, baseRef?_resolve, Option.toList_map, resolve,
    OrderedMap.values_mapValues]

end TypeDef

namespace Registry

variable {registry : Registry}

/-- Every reference of a registered or folded type that names a type leads to it. -/
def IsClosed (registry : Registry) : Prop :=
  ∀ type ∈ registry.allTypes, ∀ ref ∈ type.references, ∀ id, ref.id? = some id →
    ∃ target, registry.lookup id = some target ∧ target.name = id

theorem allTypes_of_isUnfolded (hunfolded : registry.IsUnfolded) :
    registry.allTypes = registry.types := by
  have hfolded : registry.folded = [] := by
    rw [folded, List.filterMap_eq_nil_iff]
    exact hunfolded
  rw [allTypes, hfolded, List.append_nil]

@[simp] theorem names_resolve : registry.resolve.names = registry.names :=
  names_mapTypes _ _

theorem types_resolve :
    registry.resolve.types = registry.types.map (TypeDef.resolve registry.contains) := rfl

theorem mem_types_resolve {type : TypeDef} : type ∈ registry.resolve.types ↔
    ∃ old ∈ registry.types, old.resolve registry.contains = type := by
  rw [types_resolve, List.mem_map]

theorem isUnfolded_resolve (hunfolded : registry.IsUnfolded) : registry.resolve.IsUnfolded := by
  intro type hmem
  obtain ⟨old, hold, rfl⟩ := mem_types_resolve.mp hmem
  exact hunfolded old hold

/-- Looking up references that named no type yet leaves a closed registry. -/
theorem isClosed_resolve (hunfolded : registry.IsUnfolded)
    (hunresolved : ∀ type ∈ registry.types, ∀ ref ∈ type.references, ref.id? = none) :
    registry.resolve.IsClosed := by
  intro type hmem ref href id hid
  rw [allTypes_of_isUnfolded (isUnfolded_resolve hunfolded)] at hmem
  obtain ⟨old, hold, rfl⟩ := mem_types_resolve.mp hmem
  rw [TypeDef.references_resolve, List.mem_map] at href
  obtain ⟨written, hwritten, rfl⟩ := href
  rcases TypeRef.id?_resolve hid with hearlier | hknown
  · rw [hunresolved old hold written hwritten] at hearlier
    exact absurd hearlier (by simp)
  · apply exists_lookup_eq_some
    rw [allTypes_of_isUnfolded (isUnfolded_resolve hunfolded)]
    change id ∈ registry.resolve.names
    rw [names_resolve]
    exact contains_eq_true_iff.mp hknown

section Folding

variable {suffix readMethod : String}

theorem unfolded_allTypes_foldLists (hunfolded : registry.IsUnfolded) :
    ((registry.foldLists suffix readMethod).allTypes.map TypeDef.unfolded).Perm registry.types := by
  have hfolded : (registry.foldLists suffix readMethod).folded.map TypeDef.unfolded =
      (registry.foldLists suffix readMethod).folded := by
    apply map_eq_self
    intro list hlist
    have hmem := List.mem_of_mem_filter ((perm_folded_foldLists hunfolded).subset hlist)
    exact TypeDef.unfolded_eq_self (hunfolded list hmem)
  rw [allTypes, List.map_append, hfolded]
  exact perm_types_foldLists hunfolded

theorem names_allTypes_foldLists (hunfolded : registry.IsUnfolded) :
    ((registry.foldLists suffix readMethod).allTypes.map TypeDef.name).Perm registry.names := by
  have hperm : (((registry.foldLists suffix readMethod).allTypes.map TypeDef.unfolded).map
      TypeDef.name).Perm registry.names := (unfolded_allTypes_foldLists hunfolded).map TypeDef.name
  rw [List.map_map] at hperm
  exact hperm

theorem unfolded_mem_of_mem_allTypes (hunfolded : registry.IsUnfolded) {type : TypeDef}
    (hmem : type ∈ (registry.foldLists suffix readMethod).allTypes) :
    type.unfolded ∈ registry.types :=
  (unfolded_allTypes_foldLists hunfolded).subset (List.mem_map_of_mem hmem)

/-- Folding keeps a registry closed. -/
theorem isClosed_foldLists (hunfolded : registry.IsUnfolded) (hclosed : registry.IsClosed) :
    (registry.foldLists suffix readMethod).IsClosed := by
  intro type hmem ref href id hid
  have hearlier := unfolded_mem_of_mem_allTypes hunfolded hmem
  rw [← allTypes_of_isUnfolded hunfolded] at hearlier
  obtain ⟨target, hfound, hname⟩ := hclosed type.unfolded hearlier ref href id hid
  obtain ⟨htarget, -⟩ := mem_allTypes_of_lookup_eq_some hfound
  rw [allTypes_of_isUnfolded hunfolded] at htarget
  apply exists_lookup_eq_some
  rw [(names_allTypes_foldLists hunfolded).mem_iff, ← hname]
  exact name_mem_names htarget

end Folding

end Registry

end RestModel

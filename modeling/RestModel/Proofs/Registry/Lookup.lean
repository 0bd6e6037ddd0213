import Mathlib.Data.List.Nodup
import Mathlib.Data.List.Pairwise
import Mathlib.Data.List.Perm.Basic
import RestModel.Registry.Basic

/-!
# Types by name

A registry is searched by name.  Since no two of its types have the same name, a search finds a type
exactly if the registry holds it, and the order of the types has no influence on what is found.  The
operations of the registry are described by the types they leave and by the names of these types.
-/

namespace RestModel

/-! ## Lists without repeated names -/

section NamedTypes

variable {types others : List TypeDef} {name : String}

theorem map_eq_self {f : TypeDef → TypeDef} (hsame : ∀ type ∈ types, f type = type) :
    types.map f = types :=
  (List.map_congr_left hsame).trans (List.map_id types)

theorem find?_name_eq_some_iff {type : TypeDef} (hnodup : (types.map TypeDef.name).Nodup) :
    types.find? (·.name == name) = some type ↔ type ∈ types ∧ type.name = name := by
  constructor
  · intro hfound
    refine ⟨List.mem_of_find?_eq_some hfound, ?_⟩
    simpa using List.find?_some hfound
  · rintro ⟨hmem, rfl⟩
    cases hfound : types.find? (·.name == type.name) with
    | none => exact absurd (List.find?_eq_none.mp hfound type hmem) (by simp)
    | some other =>
        have hother := List.mem_of_find?_eq_some hfound
        have hname : other.name = type.name := by simpa using List.find?_some hfound
        rw [List.inj_on_of_nodup_map hnodup hother hmem hname]

theorem find?_name_eq_none_iff :
    types.find? (·.name == name) = none ↔ name ∉ types.map TypeDef.name := by
  simp [List.find?_eq_none]

/-- A search that can succeed at one type only does not depend on the order of the types. -/
theorem find?_perm_of_unique {fits : TypeDef → Bool} (hperm : types.Perm others)
    (hunique : ∀ type ∈ types, ∀ other ∈ types, fits type = true → fits other = true →
      type = other) : types.find? fits = others.find? fits := by
  cases hfound : others.find? fits with
  | none =>
      rw [List.find?_eq_none] at hfound ⊢
      intro type hmem
      exact hfound type (hperm.mem_iff.mp hmem)
  | some other =>
      have hother := hperm.mem_iff.mpr (List.mem_of_find?_eq_some hfound)
      cases hearlier : types.find? fits with
      | none => exact absurd (List.find?_some hfound) (List.find?_eq_none.mp hearlier other hother)
      | some type =>
          rw [hunique type (List.mem_of_find?_eq_some hearlier) other hother
            (List.find?_some hearlier) (List.find?_some hfound)]

/-- What a search by name finds does not depend on the order of the types. -/
theorem find?_name_perm (hperm : types.Perm others) (hnodup : (types.map TypeDef.name).Nodup) :
    types.find? (·.name == name) = others.find? (·.name == name) := by
  apply find?_perm_of_unique hperm
  intro type hmem other hother htype hotherName
  rw [beq_iff_eq] at htype hotherName
  exact List.inj_on_of_nodup_map hnodup hmem hother (htype.trans hotherName.symm)

end NamedTypes

namespace Registry

variable {registry : Registry} {name : String} {type : TypeDef}

theorem get?_eq_some_iff :
    registry.get? name = some type ↔ type ∈ registry.types ∧ type.name = name :=
  find?_name_eq_some_iff registry.nodup

theorem get?_name_of_mem (hmem : type ∈ registry.types) : registry.get? type.name = some type :=
  get?_eq_some_iff.mpr ⟨hmem, rfl⟩

theorem name_mem_names (hmem : type ∈ registry.types) : type.name ∈ registry.names :=
  List.mem_map_of_mem hmem

theorem nodup_names : registry.names.Nodup :=
  registry.nodup

@[simp] theorem contains_eq_true_iff : registry.contains name = true ↔ name ∈ registry.names := by
  simp [contains, names]

/-- Registered types of one name are the same type. -/
theorem eq_of_name_eq {other : TypeDef} (hmem : type ∈ registry.types)
    (hother : other ∈ registry.types) (hname : type.name = other.name) : type = other :=
  List.inj_on_of_nodup_map registry.nodup hmem hother hname

/-! ## Looking up registered and folded types -/

/-- The registered types, then the list types folded into them. -/
def allTypes (registry : Registry) : List TypeDef :=
  registry.types ++ registry.folded

theorem names_allTypes : registry.allTypes.map TypeDef.name =
    registry.names ++ registry.folded.map TypeDef.name := by
  rw [allTypes, List.map_append]
  rfl

theorem mem_folded : type ∈ registry.folded ↔
    ∃ singular ∈ registry.types, singular.collection = some type := by
  simp [folded]

/-- List types of one name were folded into the same type. -/
theorem eq_of_collection_name_eq (hnodup : (registry.folded.map TypeDef.name).Nodup)
    {other list otherList : TypeDef} (hmem : type ∈ registry.types)
    (hother : other ∈ registry.types) (hlist : type.collection = some list)
    (hotherList : other.collection = some otherList) (hname : list.name = otherList.name) :
    type = other := by
  by_contra hne
  rw [folded, List.Nodup, List.pairwise_map, List.pairwise_filterMap] at hnodup
  have hsymm : Std.Symm (fun left right : TypeDef => ∀ first, left.collection = some first →
      ∀ second, right.collection = some second → first.name ≠ second.name) :=
    ⟨fun _ _ hapart second hsecond first hfirst => (hapart first hfirst second hsecond).symm⟩
  exact hnodup.forall hmem hother hne list hlist otherList hotherList hname

theorem lookup_eq_find? : registry.lookup name = registry.allTypes.find? (·.name == name) := by
  simp [lookup, get?, allTypes, List.find?_append]

/-- What is looked up by a name has that name and is registered or folded. -/
theorem mem_allTypes_of_lookup_eq_some (hfound : registry.lookup name = some type) :
    type ∈ registry.allTypes ∧ type.name = name := by
  rw [lookup_eq_find?] at hfound
  exact ⟨List.mem_of_find?_eq_some hfound, by simpa using List.find?_some hfound⟩

theorem exists_lookup_eq_some (hmem : name ∈ registry.allTypes.map TypeDef.name) :
    ∃ type, registry.lookup name = some type ∧ type.name = name := by
  cases hfound : registry.lookup name with
  | some type => exact ⟨type, rfl, (mem_allTypes_of_lookup_eq_some hfound).2⟩
  | none =>
      rw [lookup_eq_find?, find?_name_eq_none_iff] at hfound
      exact absurd hmem hfound

/-! ## What the operations leave -/

@[simp] theorem types_mapTypes (f : TypeDef → TypeDef) (keeps : ∀ type, (f type).name = type.name) :
    (registry.mapTypes f keeps).types = registry.types.map f := rfl

@[simp] theorem names_mapTypes (f : TypeDef → TypeDef) (keeps : ∀ type, (f type).name = type.name) :
    (registry.mapTypes f keeps).names = registry.names := by
  simp [names, mapTypes, Function.comp_def, keeps]

theorem get?_mapTypes (f : TypeDef → TypeDef) (keeps : ∀ type, (f type).name = type.name) :
    (registry.mapTypes f keeps).get? name = (registry.get? name).map f := by
  rw [get?, get?, types_mapTypes, List.find?_map]
  congr 2
  funext type
  exact congrArg (· == name) (keeps type)

theorem get?_erase_of_ne {other : String} (hne : name ≠ other) :
    (registry.erase other).get? name = registry.get? name := by
  simp only [get?, erase, List.find?_filter]
  congr 1
  funext type
  by_cases hname : type.name = name
  · simp [hname, hne]
  · simp [hname]

theorem get?_attachCollection_of_ne {other : String} (list : TypeDef) (hne : name ≠ other) :
    (registry.attachCollection other list).get? name = registry.get? name := by
  rw [attachCollection, get?_mapTypes]
  cases hfound : registry.get? name with
  | none => rfl
  | some type =>
      have hname := (get?_eq_some_iff.mp hfound).2
      simp [hname, hne]

theorem mem_insertType {types : List TypeDef} {new : TypeDef} (hmem : type ∈ insertType new types) :
    type = new ∨ type ∈ types := by
  induction types with
  | nil => simpa [insertType] using hmem
  | cons head rest ih =>
      by_cases hsame : head.name = new.name
      · simp only [insertType, if_pos hsame, List.mem_cons] at hmem
        exact hmem.imp_right (List.mem_cons_of_mem head)
      · simp only [insertType, if_neg hsame, List.mem_cons] at hmem
        rcases hmem with rfl | hrest
        · exact Or.inr List.mem_cons_self
        · exact (ih hrest).imp_right (List.mem_cons_of_mem head)

theorem names_insert (new : TypeDef) : (registry.insert new).names =
    if new.name ∈ registry.names then registry.names else registry.names ++ [new.name] :=
  names_insertType new registry.types

theorem mem_names_insert {new : TypeDef} :
    name ∈ (registry.insert new).names ↔ name = new.name ∨ name ∈ registry.names := by
  rw [names_insert]
  split
  · next hpresent =>
    constructor
    · exact Or.inr
    · rintro (rfl | hmem)
      · exact hpresent
      · exact hmem
  · rw [List.mem_append, List.mem_singleton, or_comm]

theorem mem_names_insertAll {new : List TypeDef} :
    name ∈ (registry.insertAll new).names ↔
      name ∈ new.map TypeDef.name ∨ name ∈ registry.names := by
  induction new generalizing registry with
  | nil => simp [insertAll]
  | cons head rest ih =>
      have hstep : registry.insertAll (head :: rest) = (registry.insert head).insertAll rest := rfl
      rw [hstep, ih, mem_names_insert, List.map_cons, List.mem_cons]
      tauto

theorem mem_types_insertAll {new : List TypeDef} (hmem : type ∈ (registry.insertAll new).types) :
    type ∈ new ∨ type ∈ registry.types := by
  induction new generalizing registry with
  | nil => exact Or.inr hmem
  | cons head rest ih =>
      rcases ih hmem with hrest | hinserted
      · exact Or.inl (List.mem_cons_of_mem head hrest)
      · rcases mem_insertType hinserted with rfl | hold
        · exact Or.inl List.mem_cons_self
        · exact Or.inr hold

theorem insertType_of_not_mem {types : List TypeDef} {new : TypeDef}
    (hfresh : new.name ∉ types.map TypeDef.name) : insertType new types = types ++ [new] := by
  induction types with
  | nil => rfl
  | cons head rest ih =>
      rw [List.map_cons, List.mem_cons, not_or] at hfresh
      rw [insertType, if_neg (Ne.symm hfresh.1), ih hfresh.2, List.cons_append]

/-- Types with new names are put behind the others. -/
theorem types_insertAll_of_nodup {new : List TypeDef}
    (hnodup : (registry.names ++ new.map TypeDef.name).Nodup) :
    (registry.insertAll new).types = registry.types ++ new := by
  induction new generalizing registry with
  | nil => exact (List.append_nil registry.types).symm
  | cons head rest ih =>
      rw [List.map_cons] at hnodup
      have hfresh : head.name ∉ registry.names := by
        intro hmem
        exact (List.nodup_append.mp hnodup).2.2 head.name hmem head.name List.mem_cons_self rfl
      have htypes : (registry.insert head).types = registry.types ++ [head] :=
        insertType_of_not_mem hfresh
      have hnames : (registry.insert head).names = registry.names ++ [head.name] := by
        rw [names_insert, if_neg hfresh]
      have hstep : registry.insertAll (head :: rest) = (registry.insert head).insertAll rest := rfl
      rw [hstep, ih (by rw [hnames, List.append_assoc]; exact hnodup), htypes,
        List.append_assoc, List.singleton_append]

end Registry

end RestModel

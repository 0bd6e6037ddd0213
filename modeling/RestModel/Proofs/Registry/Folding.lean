import RestModel.Proofs.Registry.Lookup
import RestModel.Registry.Folding

/-!
# What folding changes

Folding decides on all folds first and carries them out afterwards.  The module describes its
result without these two passes: for every type, the first list type in registry order that fits
becomes its collection and leaves the registry, and nothing else changes.  A list type carries the
list suffix in its name and the type that takes it does not, so no fold undoes or prevents another
one.
-/

namespace RestModel

namespace TypeDef

/-- Whether a type may take another one as its collection: the name of the list holds the suffix,
the name without the suffix is the name of the type and does not hold the suffix again, the type has
no collection yet, and the list has the shape of a list of it. -/
def mayTake (singular : TypeDef) (suffix readMethod : String) (list : TypeDef) : Bool :=
  Text.contains suffix list.name && !Text.contains suffix singular.name &&
    (Registry.singularName suffix list.name == singular.name) && singular.collection.isNone &&
    list.listsType singular readMethod

/-- The type with a list type as its collection, if there is one. -/
def withList (type : TypeDef) : Option TypeDef → TypeDef
  | some list => { type with collection := some list }
  | none => type

/-- The type without its collection. -/
def unfolded (type : TypeDef) : TypeDef :=
  { type with collection := none }

variable {list singular : TypeDef} {suffix readMethod : String}

theorem mayTake_iff : singular.mayTake suffix readMethod list = true ↔
    Text.contains suffix list.name = true ∧ Text.contains suffix singular.name = false ∧
      Registry.singularName suffix list.name = singular.name ∧ singular.collection = none ∧
      list.listsType singular readMethod = true := by
  simp [mayTake, and_assoc]

theorem contains_of_mayTake (htake : singular.mayTake suffix readMethod list = true) :
    Text.contains suffix list.name = true :=
  (mayTake_iff.mp htake).1

theorem not_contains_of_mayTake (htake : singular.mayTake suffix readMethod list = true) :
    Text.contains suffix singular.name = false :=
  (mayTake_iff.mp htake).2.1

theorem singularName_of_mayTake (htake : singular.mayTake suffix readMethod list = true) :
    Registry.singularName suffix list.name = singular.name :=
  (mayTake_iff.mp htake).2.2.1

theorem listsType_of_mayTake (htake : singular.mayTake suffix readMethod list = true) :
    list.listsType singular readMethod = true :=
  (mayTake_iff.mp htake).2.2.2.2

/-- A type with the suffix in its name takes no list type. -/
theorem mayTake_eq_false_of_contains (hmarked : Text.contains suffix singular.name = true) :
    singular.mayTake suffix readMethod list = false := by
  simp [mayTake, hmarked]

/-- A list type has a member, by which it refers to what it lists. -/
theorem isEmpty_members_of_listsType (hlists : list.listsType singular readMethod = true) :
    list.members.isEmpty = false := by
  rw [Bool.eq_false_iff]
  intro hempty
  have hentries : list.members.entries = [] := List.isEmpty_iff.mp hempty
  simp [listsType, hasMember, OrderedMap.contains, OrderedMap.keys, OrderedMap.values,
    hentries] at hlists

theorem hasPaths_of_listsType (hlists : list.listsType singular readMethod = true) :
    singular.hasPaths = true := by
  simp only [listsType, Bool.and_eq_true] at hlists
  exact hlists.1.1

theorem methodCount_pos_of_listsType (hlists : list.listsType singular readMethod = true) :
    0 < list.methodCount readMethod := by
  simp only [listsType, Bool.and_eq_true, decide_eq_true_eq] at hlists
  exact hlists.1.2

@[simp] theorem name_withList (type : TypeDef) (list : Option TypeDef) :
    (type.withList list).name = type.name := by
  cases list <;> rfl

@[simp] theorem name_unfolded (type : TypeDef) : type.unfolded.name = type.name := rfl

theorem unfolded_eq_self {type : TypeDef} (hfree : type.collection = none) :
    type.unfolded = type := by
  cases type
  cases hfree
  rfl

end TypeDef

namespace Registry

variable {registry : Registry} {suffix readMethod : String}

/-- The first type in registry order that a type may take as its collection. -/
def firstList? (registry : Registry) (suffix readMethod : String) (singular : TypeDef) :
    Option TypeDef :=
  registry.types.find? (singular.mayTake suffix readMethod)

/-- Whether a type is the first list type of some registered type. -/
def isFolded (registry : Registry) (suffix readMethod : String) (list : TypeDef) : Bool :=
  registry.types.any (fun singular =>
    (registry.firstList? suffix readMethod singular).any (·.name == list.name))

theorem mem_of_firstList? {singular list : TypeDef}
    (hfirst : registry.firstList? suffix readMethod singular = some list) :
    list ∈ registry.types :=
  List.mem_of_find?_eq_some hfirst

theorem mayTake_of_firstList? {singular list : TypeDef}
    (hfirst : registry.firstList? suffix readMethod singular = some list) :
    singular.mayTake suffix readMethod list = true :=
  List.find?_some hfirst

theorem isFolded_iff {list : TypeDef} (hmem : list ∈ registry.types) :
    registry.isFolded suffix readMethod list = true ↔
      ∃ singular ∈ registry.types, registry.firstList? suffix readMethod singular = some list := by
  simp only [isFolded, List.any_eq_true, Option.any_eq_true, beq_iff_eq]
  constructor
  · rintro ⟨singular, hsingular, other, hfirst, hname⟩
    rw [eq_of_name_eq (mem_of_firstList? hfirst) hmem hname] at hfirst
    exact ⟨singular, hsingular, hfirst⟩
  · rintro ⟨singular, hsingular, hfirst⟩
    exact ⟨singular, hsingular, list, hfirst, rfl⟩

/-- A type that takes a list type is not folded itself. -/
theorem isFolded_eq_false_of_firstList? {singular list : TypeDef}
    (hmem : singular ∈ registry.types)
    (hfirst : registry.firstList? suffix readMethod singular = some list) :
    registry.isFolded suffix readMethod singular = false := by
  rw [Bool.eq_false_iff]
  intro hfolded
  obtain ⟨other, -, hother⟩ := (isFolded_iff hmem).mp hfolded
  have hmarked := TypeDef.contains_of_mayTake (mayTake_of_firstList? hother)
  have htake := mayTake_of_firstList? hfirst
  rw [TypeDef.mayTake_eq_false_of_contains hmarked] at htake
  exact Bool.noConfusion htake

/-! ## The decisions -/

theorem foldChoice_eq_fold_iff {claimed : List String} {list : TypeDef} {name : String} :
    registry.foldChoice suffix readMethod claimed list = .fold name ↔
      name ∉ claimed ∧ ∃ singular ∈ registry.types, singular.name = name ∧
        singular.mayTake suffix readMethod list = true := by
  simp only [foldChoice, TypeDef.mayTake_iff]
  constructor
  · intro hchoice
    split at hchoice
    · simp at hchoice
    · next hnames =>
      split at hchoice
      · simp at hchoice
      · next singular hsingular =>
        obtain ⟨hmem, hname⟩ := get?_eq_some_iff.mp hsingular
        split at hchoice
        · simp at hchoice
        · split at hchoice
          · simp at hchoice
          · next hfree =>
            split at hchoice
            · next hshape =>
              injection hchoice with hchoice
              simp only [Bool.or_eq_true, Bool.not_eq_true', not_or, Bool.not_eq_true,
                Bool.not_eq_false, Option.isSome_eq_false_iff, Option.isNone_iff_eq_none,
                List.contains_iff_mem] at hnames hfree
              rw [hchoice] at hname hnames hfree
              exact ⟨hfree.2, singular, hmem, hname, hnames.1, hname ▸ hnames.2,
                hchoice.trans hname.symm, hfree.1, hshape⟩
            · simp at hchoice
  · rintro ⟨hclaimed, singular, hmem, rfl, hmarked, hunmarked, hname, hfree, hshape⟩
    have hne : singular.name ≠ list.name := by
      intro hequal
      rw [hequal, hmarked] at hunmarked
      exact Bool.noConfusion hunmarked
    simp [hname, hmarked, hunmarked, get?_name_of_mem hmem, hne, hfree, hclaimed, hshape]

theorem foldsFrom_cons_of_fold {claimed : List String} {list : TypeDef} {rest : List TypeDef}
    {name : String} (hchoice : registry.foldChoice suffix readMethod claimed list = .fold name) :
    registry.foldsFrom suffix readMethod claimed (list :: rest) =
      ⟨list.name, name⟩ :: registry.foldsFrom suffix readMethod (name :: claimed) rest := by
  rw [foldsFrom, hchoice]

theorem foldsFrom_cons_of_not_fold {claimed : List String} {list : TypeDef} {rest : List TypeDef}
    (hchoice : ∀ name, registry.foldChoice suffix readMethod claimed list ≠ .fold name) :
    registry.foldsFrom suffix readMethod claimed (list :: rest) =
      registry.foldsFrom suffix readMethod claimed rest := by
  rw [foldsFrom]
  split
  · next name hfold => exact absurd hfold (hchoice name)
  · rfl

/-- A fold names a registered type and the first type of a list that this type may take. -/
def IsFirstFold (registry : Registry) (suffix readMethod : String) (types : List TypeDef)
    (fold : Fold) : Prop :=
  ∃ singular ∈ registry.types, singular.name = fold.singular ∧
    ∃ list, types.find? (singular.mayTake suffix readMethod) = some list ∧ list.name = fold.list

theorem isFirstFold_cons_iff_eq {head taker : TypeDef} {rest : List TypeDef} {fold : Fold}
    (hmem : taker ∈ registry.types) (htake : taker.mayTake suffix readMethod head = true)
    (hsame : taker.name = fold.singular) :
    registry.IsFirstFold suffix readMethod (head :: rest) fold ↔
      fold = ⟨head.name, taker.name⟩ := by
  constructor
  · rintro ⟨singular, hsingular, hname, list, hfirst, hlist⟩
    rw [eq_of_name_eq hsingular hmem (hname.trans hsame.symm), List.find?_cons_of_pos htake,
      Option.some.injEq] at hfirst
    rw [hfirst, hlist, hsame]
  · rintro rfl
    exact ⟨taker, hmem, rfl, head, List.find?_cons_of_pos htake, rfl⟩

theorem isFirstFold_cons_iff {head : TypeDef} {rest : List TypeDef} {fold : Fold}
    (hother : ∀ singular ∈ registry.types, singular.name = fold.singular →
      ¬ singular.mayTake suffix readMethod head = true) :
    registry.IsFirstFold suffix readMethod (head :: rest) fold ↔
      registry.IsFirstFold suffix readMethod rest fold := by
  constructor
  · rintro ⟨singular, hsingular, hname, list, hfirst, hlist⟩
    rw [List.find?_cons_of_neg (hother singular hsingular hname)] at hfirst
    exact ⟨singular, hsingular, hname, list, hfirst, hlist⟩
  · rintro ⟨singular, hsingular, hname, list, hfirst, hlist⟩
    rw [← List.find?_cons_of_neg (hother singular hsingular hname)] at hfirst
    exact ⟨singular, hsingular, hname, list, hfirst, hlist⟩

/-- A fold is decided on exactly if it takes the first list type of a type that was not claimed
before. -/
theorem mem_foldsFrom {claimed : List String} {types : List TypeDef} {fold : Fold} :
    fold ∈ registry.foldsFrom suffix readMethod claimed types ↔
      fold.singular ∉ claimed ∧ registry.IsFirstFold suffix readMethod types fold := by
  induction types generalizing claimed with
  | nil => simp [foldsFrom, IsFirstFold]
  | cons head rest ih =>
      by_cases hchoice : ∃ name, registry.foldChoice suffix readMethod claimed head = .fold name
      · obtain ⟨name, hfold⟩ := hchoice
        obtain ⟨hclaimed, taker, hmem, rfl, htake⟩ := foldChoice_eq_fold_iff.mp hfold
        rw [foldsFrom_cons_of_fold hfold, List.mem_cons, ih, List.mem_cons, not_or]
        by_cases hsame : taker.name = fold.singular
        · rw [isFirstFold_cons_iff_eq hmem htake hsame]
          simp [← hsame, hclaimed]
        · -- The head has one singular name only, so no other type takes it.
          have hother : ∀ singular ∈ registry.types, singular.name = fold.singular →
              ¬ singular.mayTake suffix readMethod head = true := by
            intro singular _ hname hsecond
            apply hsame
            rw [← hname, ← TypeDef.singularName_of_mayTake hsecond,
              TypeDef.singularName_of_mayTake htake]
          have hne : fold ≠ ⟨head.name, taker.name⟩ := fun hequal => hsame (by rw [hequal])
          rw [isFirstFold_cons_iff hother]
          simp [hne, Ne.symm hsame]
      · rw [not_exists] at hchoice
        rw [foldsFrom_cons_of_not_fold hchoice, ih]
        apply and_congr_right
        intro hfresh
        rw [isFirstFold_cons_iff]
        intro singular hsingular hname htake
        exact hchoice singular.name
          (foldChoice_eq_fold_iff.mpr ⟨hname ▸ hfresh, singular, hsingular, rfl, htake⟩)

theorem contains_empty (text : String) : Text.contains "" text = true := by
  rw [Text.contains]
  cases text.toList <;> rfl

theorem mem_folds {fold : Fold} : fold ∈ registry.folds suffix readMethod ↔
    registry.IsFirstFold suffix readMethod registry.types fold := by
  rw [folds]
  split
  · next hempty =>
    -- With the empty suffix every name is marked, so that no type takes a list type.
    subst hempty
    constructor
    · intro hmem
      exact absurd hmem List.not_mem_nil
    · rintro ⟨singular, -, -, list, hfirst, -⟩
      have hunmarked := TypeDef.not_contains_of_mayTake (List.find?_some hfirst)
      rw [contains_empty] at hunmarked
      exact Bool.noConfusion hunmarked
  · rw [mem_foldsFrom]
    simp

theorem lists_foldsFrom_sublist {claimed : List String} {types : List TypeDef} :
    ((registry.foldsFrom suffix readMethod claimed types).map Fold.list).Sublist
      (types.map TypeDef.name) := by
  induction types generalizing claimed with
  | nil => simp [foldsFrom]
  | cons head rest ih =>
      rw [foldsFrom, List.map_cons]
      split
      · exact ih.cons_cons head.name
      · exact ih.cons head.name

theorem nodup_singulars_foldsFrom {claimed : List String} {types : List TypeDef} :
    ((registry.foldsFrom suffix readMethod claimed types).map Fold.singular).Nodup := by
  induction types generalizing claimed with
  | nil => simp [foldsFrom]
  | cons head rest ih =>
      rw [foldsFrom]
      split
      · next name _ =>
        rw [List.map_cons, List.nodup_cons]
        refine ⟨?_, ih⟩
        rw [List.mem_map]
        rintro ⟨fold, hmem, hsame⟩
        exact (mem_foldsFrom.mp hmem).1 (by simp [hsame])
      · exact ih

theorem nodup_lists_folds : ((registry.folds suffix readMethod).map Fold.list).Nodup := by
  rw [folds]
  split
  · exact List.nodup_nil
  · exact registry.nodup.sublist lists_foldsFrom_sublist

theorem nodup_singulars_folds : ((registry.folds suffix readMethod).map Fold.singular).Nodup := by
  rw [folds]
  split
  · exact List.nodup_nil
  · exact nodup_singulars_foldsFrom

/-- No type is folded that takes a list type itself: only one of the two names holds the suffix. -/
theorem list_ne_singular_of_mem_folds {fold other : Fold}
    (hfold : fold ∈ registry.folds suffix readMethod)
    (hother : other ∈ registry.folds suffix readMethod) : fold.list ≠ other.singular := by
  obtain ⟨_, -, -, list, hfirst, hlist⟩ := mem_folds.mp hfold
  obtain ⟨singular, -, hsingular, _, hsecond, -⟩ := mem_folds.mp hother
  have hmarked := TypeDef.contains_of_mayTake (List.find?_some hfirst)
  have hunmarked := TypeDef.not_contains_of_mayTake (List.find?_some hsecond)
  rw [← hlist, ← hsingular]
  intro hsame
  rw [hsame, hunmarked] at hmarked
  exact Bool.noConfusion hmarked

/-! ## Carrying the folds out -/

/-- The list type that folds bring into the type of a name. -/
def listFor? (registry : Registry) (folds : List Fold) (name : String) : Option TypeDef :=
  (folds.find? (·.singular == name)).bind (fun fold => registry.get? fold.list)

theorem get?_applyFold_of_ne {fold : Fold} {name : String} (hlist : name ≠ fold.list)
    (hsingular : name ≠ fold.singular) :
    (registry.applyFold fold).get? name = registry.get? name := by
  rw [applyFold]
  split
  · rfl
  · rw [get?_attachCollection_of_ne _ hsingular, get?_erase_of_ne hlist]

theorem types_applyFold {fold : Fold} {list : TypeDef}
    (hlist : registry.get? fold.list = some list) :
    (registry.applyFold fold).types = (registry.types.filter (·.name != fold.list)).map
      (fun type => type.withList (if type.name = fold.singular then some list else none)) := by
  rw [applyFold, hlist]
  apply List.map_congr_left
  intro type _
  split <;> rfl

theorem listFor?_cons_of_ne {fold : Fold} {rest : List Fold} {name : String}
    (hne : name ≠ fold.singular) :
    registry.listFor? (fold :: rest) name = registry.listFor? rest name := by
  rw [listFor?, listFor?, List.find?_cons_of_neg]
  simpa using Ne.symm hne

theorem listFor?_cons_self {fold : Fold} {rest : List Fold} :
    registry.listFor? (fold :: rest) fold.singular = registry.get? fold.list := by
  rw [listFor?, List.find?_cons_of_pos (by simp)]
  rfl

theorem listFor?_eq_none {folds : List Fold} {name : String}
    (habsent : name ∉ folds.map Fold.singular) : registry.listFor? folds name = none := by
  have hfind : folds.find? (·.singular == name) = none := by
    rw [List.find?_eq_none]
    intro fold hfold
    rw [beq_iff_eq]
    rintro rfl
    exact habsent (List.mem_map_of_mem hfold)
  rw [listFor?, hfind]
  rfl

theorem listFor?_applyFold {fold : Fold} {rest : List Fold} {name : String}
    (hapart : ∀ other ∈ rest, other.list ≠ fold.list ∧ other.list ≠ fold.singular) :
    (registry.applyFold fold).listFor? rest name = registry.listFor? rest name := by
  rw [listFor?, listFor?]
  cases hfind : rest.find? (·.singular == name) with
  | none => rfl
  | some other =>
      obtain ⟨hlist, hsingular⟩ := hapart other (List.mem_of_find?_eq_some hfind)
      exact get?_applyFold_of_ne hlist hsingular

theorem withList_listFor?_applyFold {fold : Fold} {rest : List Fold} {list type : TypeDef}
    (hlist : registry.get? fold.list = some list) (hfresh : fold.singular ∉ rest.map Fold.singular)
    (hapart : ∀ other ∈ rest, other.list ≠ fold.list ∧ other.list ≠ fold.singular) :
    (type.withList (if type.name = fold.singular then some list else none)).withList
        ((registry.applyFold fold).listFor? rest type.name) =
      type.withList (registry.listFor? (fold :: rest) type.name) := by
  rw [listFor?_applyFold hapart]
  by_cases hname : type.name = fold.singular
  · rw [if_pos hname, hname, listFor?_cons_self, hlist, listFor?_eq_none hfresh]
    rfl
  · rw [if_neg hname, listFor?_cons_of_ne hname]
    rfl

/-- Folds that do not touch each other remove their list types and attach each to its type. -/
theorem types_foldl_applyFold {folds : List Fold} (hlists : (folds.map Fold.list).Nodup)
    (hsingulars : (folds.map Fold.singular).Nodup)
    (hapart : ∀ fold ∈ folds, ∀ other ∈ folds, fold.list ≠ other.singular)
    (hregistered : ∀ fold ∈ folds, ∃ list, registry.get? fold.list = some list) :
    (folds.foldl applyFold registry).types =
      (registry.types.filter (fun type => !(folds.map Fold.list).contains type.name)).map
        (fun type => type.withList (registry.listFor? folds type.name)) := by
  induction folds generalizing registry with
  | nil => simp [listFor?, TypeDef.withList]
  | cons fold rest ih =>
      rw [List.map_cons, List.nodup_cons] at hlists hsingulars
      have hrest : ∀ other ∈ rest, other.list ≠ fold.list ∧ other.list ≠ fold.singular := by
        intro other hother
        refine ⟨?_, hapart other (List.mem_cons_of_mem fold hother) fold List.mem_cons_self⟩
        intro hsame
        exact hlists.1 (hsame ▸ List.mem_map_of_mem hother)
      have hkept : ∀ other ∈ rest,
          ∃ list, (registry.applyFold fold).get? other.list = some list := by
        intro other hother
        rw [get?_applyFold_of_ne (hrest other hother).1 (hrest other hother).2]
        exact hregistered other (List.mem_cons_of_mem fold hother)
      have hinner : ∀ other ∈ rest, ∀ third ∈ rest, other.list ≠ third.singular := by
        intro other hother third hthird
        exact hapart other (List.mem_cons_of_mem fold hother) third
          (List.mem_cons_of_mem fold hthird)
      obtain ⟨list, hlist⟩ := hregistered fold List.mem_cons_self
      rw [List.foldl_cons, ih hlists.2 hsingulars.2 hinner hkept, types_applyFold hlist,
        List.filter_map, List.map_map, List.filter_filter]
      simp only [Function.comp_def, TypeDef.name_withList]
      have hfilter : registry.types.filter (fun type =>
            !(rest.map Fold.list).contains type.name && type.name != fold.list) =
          registry.types.filter (fun type =>
            !((fold :: rest).map Fold.list).contains type.name) := by
        apply List.filter_congr
        intro type _
        rw [List.map_cons, List.contains_cons, Bool.not_or, Bool.and_comm]
        rfl
      rw [hfilter]
      apply List.map_congr_left
      intro type _
      exact withList_listFor?_applyFold hlist hsingulars.1 hrest

/-! ## The result -/

theorem listFor?_folds {singular : TypeDef} (hmem : singular ∈ registry.types) :
    registry.listFor? (registry.folds suffix readMethod) singular.name =
      registry.firstList? suffix readMethod singular := by
  rw [listFor?]
  cases hfind : (registry.folds suffix readMethod).find? (·.singular == singular.name) with
  | some fold =>
      have hname : fold.singular = singular.name := by simpa using List.find?_some hfind
      obtain ⟨taker, htaker, htakerName, list, hfirst, hlist⟩ :=
        mem_folds.mp (List.mem_of_find?_eq_some hfind)
      rw [eq_of_name_eq htaker hmem (htakerName.trans hname)] at hfirst
      rw [Option.bind_some, ← hlist, get?_name_of_mem (mem_of_firstList? hfirst)]
      exact hfirst.symm
  | none =>
      cases hfirst : registry.firstList? suffix readMethod singular with
      | none => rfl
      | some list =>
          have hfold : ⟨list.name, singular.name⟩ ∈ registry.folds suffix readMethod :=
            mem_folds.mpr ⟨singular, hmem, rfl, list, hfirst, rfl⟩
          exact absurd (List.find?_eq_none.mp hfind _ hfold) (by simp)

theorem contains_lists_folds (type : TypeDef) :
    ((registry.folds suffix readMethod).map Fold.list).contains type.name =
      registry.isFolded suffix readMethod type := by
  rw [Bool.eq_iff_iff, List.contains_iff_mem, List.mem_map]
  simp only [isFolded, List.any_eq_true, Option.any_eq_true, beq_iff_eq, mem_folds]
  constructor
  · rintro ⟨fold, ⟨singular, hmem, -, list, hfirst, hlist⟩, hname⟩
    exact ⟨singular, hmem, list, hfirst, hlist.trans hname⟩
  · rintro ⟨singular, hmem, list, hfirst, hname⟩
    exact ⟨⟨list.name, singular.name⟩, ⟨singular, hmem, rfl, list, hfirst, rfl⟩, hname⟩

/-- Folding leaves the types that are not folded, in order, each with its first list type. -/
theorem types_foldLists : (registry.foldLists suffix readMethod).types =
    (registry.types.filter (fun type => !registry.isFolded suffix readMethod type)).map
      (fun type => type.withList (registry.firstList? suffix readMethod type)) := by
  have hregistered : ∀ fold ∈ registry.folds suffix readMethod,
      ∃ list, registry.get? fold.list = some list := by
    intro fold hfold
    obtain ⟨_, -, -, list, hfirst, hlist⟩ := mem_folds.mp hfold
    exact ⟨list, get?_eq_some_iff.mpr ⟨List.mem_of_find?_eq_some hfirst, hlist⟩⟩
  rw [foldLists, types_foldl_applyFold nodup_lists_folds nodup_singulars_folds
    (fun fold hfold other hother => list_ne_singular_of_mem_folds hfold hother) hregistered]
  simp only [contains_lists_folds]
  apply List.map_congr_left
  intro type hkept
  rw [listFor?_folds (List.mem_of_mem_filter hkept)]

theorem foldLists_empty : registry.foldLists "" readMethod = registry := by
  simp [foldLists, folds]

/-- Folding takes exactly the first list type of each type out of the registry and attaches it to
that type as it was registered.  All other types stay as they are and in their order, and with the
empty suffix the registry stays as it is. -/
theorem foldLists_takes_first_lists (registry : Registry) (suffix readMethod : String) :
    (registry.foldLists suffix readMethod).types =
        (registry.types.filter (fun type => !registry.isFolded suffix readMethod type)).map
          (fun type => type.withList (registry.firstList? suffix readMethod type)) ∧
      (∀ list ∈ registry.types, registry.isFolded suffix readMethod list = true ↔
        ∃ singular ∈ registry.types,
          registry.firstList? suffix readMethod singular = some list) ∧
      registry.foldLists "" readMethod = registry := by
  refine ⟨types_foldLists, ?_, foldLists_empty⟩
  intro list hmem
  exact isFolded_iff hmem

/-- The list of the users, which has the user as a member. -/
def userList : TypeDef :=
  { TypeDef.named "plcm-user-list" "urn:polycom:user" "" with
    members := .ofList [("plcm-user", .resolved "plcm-user" "user:plcm-user")]
    paths := .ofList [("/api/users", ["GET"])] }

/-- A user and the list of the users, both on a path. -/
def userRegistry : Registry where
  types := [
    { TypeDef.named "plcm-user" "urn:polycom:user" "" with
      members := .ofList [("name", .unresolved "xs:string")]
      paths := .ofList [("/api/users/\x7bid\x7d", ["GET"])] },
    userList]
  nodup := by decide

theorem userList_is_taken : userRegistry.isFolded "-list" "GET" userList = true ∧
    ∃ singular ∈ userRegistry.types,
      userRegistry.firstList? "-list" "GET" singular = some userList := by
  have hfolded : userRegistry.isFolded "-list" "GET" userList = true := by decide +kernel
  have hmem : userList ∈ userRegistry.types := by simp [userRegistry]
  have hlists := (foldLists_takes_first_lists userRegistry "-list" "GET").2.1
  exact ⟨hfolded, (hlists userList hmem).mp hfolded⟩

/-! ## Folding into a registry without collections -/

/-- No type of the registry has a collection. -/
def IsUnfolded (registry : Registry) : Prop :=
  ∀ type ∈ registry.types, type.collection = none

theorem unfolded_withList (hunfolded : registry.IsUnfolded) {type : TypeDef}
    (hmem : type ∈ registry.types) (list : Option TypeDef) :
    (type.withList list).unfolded = type ∧ (type.withList list).collection = list := by
  have hfree := hunfolded type hmem
  cases list with
  | none => exact ⟨TypeDef.unfolded_eq_self hfree, hfree⟩
  | some list => exact ⟨TypeDef.unfolded_eq_self hfree, rfl⟩

/-- What becomes the collection of a type was registered before and has the shape of a list of that
type. -/
theorem listsType_of_collection_foldLists (hunfolded : registry.IsUnfolded)
    {type list : TypeDef} (hmem : type ∈ (registry.foldLists suffix readMethod).types)
    (hlist : type.collection = some list) :
    list ∈ registry.types ∧ list.listsType type readMethod = true := by
  rw [types_foldLists, List.mem_map] at hmem
  obtain ⟨singular, hkept, rfl⟩ := hmem
  have hfirst : registry.firstList? suffix readMethod singular = some list := by
    rw [← hlist]
    exact (unfolded_withList hunfolded (List.mem_of_mem_filter hkept) _).2.symm
  have hlists := TypeDef.listsType_of_mayTake (mayTake_of_firstList? hfirst)
  rw [hfirst]
  exact ⟨mem_of_firstList? hfirst, hlists⟩

/-- What becomes a collection was registered before and has members. -/
theorem mem_types_of_collection_foldLists (hunfolded : registry.IsUnfolded)
    {type list : TypeDef} (hmem : type ∈ (registry.foldLists suffix readMethod).types)
    (hlist : type.collection = some list) :
    list ∈ registry.types ∧ list.members.isEmpty = false := by
  obtain ⟨hregistered, hlists⟩ := listsType_of_collection_foldLists hunfolded hmem hlist
  exact ⟨hregistered, TypeDef.isEmpty_members_of_listsType hlists⟩

theorem unfolded_types_foldLists (hunfolded : registry.IsUnfolded) :
    (registry.foldLists suffix readMethod).types.map TypeDef.unfolded =
      registry.types.filter (fun type => !registry.isFolded suffix readMethod type) := by
  rw [types_foldLists, List.map_map]
  apply map_eq_self
  intro type hmem
  exact (unfolded_withList hunfolded (List.mem_of_mem_filter hmem) _).1

theorem folded_foldLists (hunfolded : registry.IsUnfolded) :
    (registry.foldLists suffix readMethod).folded =
      (registry.types.filter (fun type => !registry.isFolded suffix readMethod type)).filterMap
        (registry.firstList? suffix readMethod) := by
  rw [folded, types_foldLists, List.filterMap_map]
  apply List.filterMap_congr
  intro type hmem
  exact (unfolded_withList hunfolded (List.mem_of_mem_filter hmem) _).2

/-- Each folded list type is the collection of exactly one type. -/
theorem nodup_filterMap_firstList? :
    ((registry.types.filter (fun type => !registry.isFolded suffix readMethod type)).filterMap
      (registry.firstList? suffix readMethod)).Nodup := by
  rw [List.Nodup, List.pairwise_filterMap]
  have hnames := List.pairwise_map.mp registry.nodup
  apply (hnames.sublist List.filter_sublist).imp
  intro left right hne list hleft other hright hsame
  apply hne
  rw [← TypeDef.singularName_of_mayTake (mayTake_of_firstList? hleft),
    ← TypeDef.singularName_of_mayTake (mayTake_of_firstList? hright), hsame]

theorem perm_folded_foldLists (hunfolded : registry.IsUnfolded) :
    (registry.foldLists suffix readMethod).folded.Perm
      (registry.types.filter (registry.isFolded suffix readMethod)) := by
  have htypes : registry.types.Nodup := registry.nodup.of_map TypeDef.name
  rw [folded_foldLists hunfolded,
    List.perm_ext_iff_of_nodup nodup_filterMap_firstList? (htypes.filter _)]
  intro list
  rw [List.mem_filterMap, List.mem_filter]
  constructor
  · rintro ⟨singular, hkept, hfirst⟩
    have hmem := mem_of_firstList? hfirst
    exact ⟨hmem, (isFolded_iff hmem).mpr ⟨singular, List.mem_of_mem_filter hkept, hfirst⟩⟩
  · rintro ⟨hmem, hfolded⟩
    obtain ⟨singular, hsingular, hfirst⟩ := (isFolded_iff hmem).mp hfolded
    refine ⟨singular, List.mem_filter.mpr ⟨hsingular, ?_⟩, hfirst⟩
    rw [isFolded_eq_false_of_firstList? hsingular hfirst]
    rfl

/-- Folding loses and doubles no type: the types that remain, without their collections, and the
list types folded into them are the types that were there. -/
theorem perm_types_foldLists (hunfolded : registry.IsUnfolded) :
    ((registry.foldLists suffix readMethod).types.map TypeDef.unfolded ++
      (registry.foldLists suffix readMethod).folded).Perm registry.types := by
  rw [unfolded_types_foldLists hunfolded]
  calc
    List.Perm
        (registry.types.filter (fun type => !registry.isFolded suffix readMethod type) ++
          (registry.foldLists suffix readMethod).folded)
        ((registry.foldLists suffix readMethod).folded ++
          registry.types.filter (fun type => !registry.isFolded suffix readMethod type)) :=
      List.perm_append_comm
    List.Perm _ (registry.types.filter (registry.isFolded suffix readMethod) ++
          registry.types.filter (fun type => !registry.isFolded suffix readMethod type)) :=
      (perm_folded_foldLists hunfolded).append_right _
    List.Perm _ registry.types := List.filter_append_perm _ _

end Registry

end RestModel

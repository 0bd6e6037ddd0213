import Mathlib.Data.List.Perm.Lattice
import Mathlib.Data.List.Forall2
import RestModel.Proofs.Registry.Method
import RestModel.Proofs.Resource.Replay

/-!
# Walks in any order

Declaring a method twice is the same as declaring it once, and two methods may be declared in either
order, but for the order in which the paths and their methods are listed.  So a second walk over a
resource description changes nothing, two descriptions may be walked in either order, and the report
of a walk depends on the names of the registered types only.
-/

namespace RestModel

namespace TypeDef

/-- The types have the same methods on the same paths, perhaps in different orders, and are the same
otherwise. -/
structure SamePaths (left right : TypeDef) : Prop where
  others : left.withoutPaths = right.withoutPaths
  paths : left.paths.keys.Perm right.paths.keys
  methods : ∀ path, (left.methodsOn path).Perm (right.methodsOn path)

variable {left right : TypeDef}

theorem SamePaths.refl (type : TypeDef) : type.SamePaths type :=
  ⟨rfl, .refl _, fun _ => .refl _⟩

theorem SamePaths.trans {middle : TypeDef} (hleft : left.SamePaths middle)
    (hright : middle.SamePaths right) : left.SamePaths right :=
  ⟨hleft.others.trans hright.others, hleft.paths.trans hright.paths,
    fun path => (hleft.methods path).trans (hright.methods path)⟩

/-! ## Declaring methods -/

/-- Declaring a method inserts its path among the paths. -/
theorem perm_keys_addMethod (type : TypeDef) (method path : String) :
    (type.addMethod method path).paths.keys.Perm (type.paths.keys.insert path) := by
  rw [keys_addMethod]
  exact perm_insert_of_append_new path type.paths.keys

/-- Declaring a method inserts it among the methods of its path. -/
theorem perm_methodsOn_addMethod (type : TypeDef) (method path place : String) :
    ((type.addMethod method path).methodsOn place).Perm
      (if place = path then (type.methodsOn place).insert method else type.methodsOn place) := by
  by_cases hplace : place = path
  · rw [if_pos hplace, hplace, methodsOn_addMethod]
    exact perm_insert_of_append_new method (type.methodsOn path)
  · rw [if_neg hplace, methodsOn_addMethod_of_ne type method hplace]

theorem SamePaths.addMethod (hsame : left.SamePaths right) (method path : String) :
    (left.addMethod method path).SamePaths (right.addMethod method path) where
  others := by rw [withoutPaths_addMethod, withoutPaths_addMethod, hsame.others]
  paths := by
    have hinserted := hsame.paths.insert path
    exact (left.perm_keys_addMethod method path).trans
      (hinserted.trans (right.perm_keys_addMethod method path).symm)
  methods place := by
    refine (left.perm_methodsOn_addMethod method path place).trans ?_
    refine List.Perm.trans ?_ (right.perm_methodsOn_addMethod method path place).symm
    split
    · exact (hsame.methods place).insert method
    · exact hsame.methods place

/-- Two methods may be declared in either order. -/
theorem addMethod_addMethod (type : TypeDef) (method path other place : String) :
    ((type.addMethod method path).addMethod other place).SamePaths
      ((type.addMethod other place).addMethod method path) where
  others := by simp only [withoutPaths_addMethod]
  paths := by
    have hkeys : ∀ method path other place,
        ((type.addMethod method path).addMethod other place).paths.keys.Perm
          ((type.paths.keys.insert path).insert place) := by
      intro method path other place
      have hfirst := (type.perm_keys_addMethod method path).insert place
      exact ((type.addMethod method path).perm_keys_addMethod other place).trans hfirst
    have hswap := List.perm_insert_swap place path type.paths.keys
    exact (hkeys method path other place).trans
      (hswap.trans (hkeys other place method path).symm)
  methods := by
    intro queried
    -- Each method is inserted if its path is the queried one.
    have hmethods : ∀ method path other place,
        (((type.addMethod method path).addMethod other place).methodsOn queried).Perm
          (if queried = place then
            (if queried = path then (type.methodsOn queried).insert method
              else type.methodsOn queried).insert other
          else if queried = path then (type.methodsOn queried).insert method
          else type.methodsOn queried) := by
      intro method path other place
      have hfirst := type.perm_methodsOn_addMethod method path queried
      refine ((type.addMethod method path).perm_methodsOn_addMethod other place queried).trans ?_
      split
      · exact hfirst.insert other
      · exact hfirst
    refine (hmethods method path other place).trans ?_
    refine List.Perm.trans ?_ (hmethods other place method path).symm
    split
    · split
      · exact List.perm_insert_swap other method (type.methodsOn queried)
      · exact .refl _
    · exact .refl _

end TypeDef

namespace Resource

open Xml

/-! ## Replaying annotations -/

/-- Declare an annotation on a type, if it names the type. -/
def declareOn (entry : Annotation) (type : TypeDef) : TypeDef :=
  if type.name = entry.element then type.addMethod entry.method entry.path else type

theorem replay_eq_foldl (replayed : List Annotation) (type : TypeDef) :
    replay replayed type = replayed.foldl (fun current entry => declareOn entry current) type := by
  induction replayed generalizing type with
  | nil => rfl
  | cons entry rest ih =>
      rw [replay_cons, List.foldl_cons, ih]
      rfl

theorem name_declareOn (entry : Annotation) (type : TypeDef) :
    (declareOn entry type).name = type.name := by
  rw [declareOn]
  split
  · exact Registry.name_addMethod type entry.method entry.path
  · rfl

theorem samePaths_declareOn {left right : TypeDef} (hsame : left.SamePaths right)
    (entry : Annotation) : (declareOn entry left).SamePaths (declareOn entry right) := by
  have hname : left.name = right.name := congrArg (·.name) hsame.others
  rw [declareOn, declareOn, hname]
  split
  · exact hsame.addMethod entry.method entry.path
  · exact hsame

theorem samePaths_foldl_declareOn {left right : TypeDef} (hsame : left.SamePaths right)
    (replayed : List Annotation) :
    (replayed.foldl (fun current entry => declareOn entry current) left).SamePaths
      (replayed.foldl (fun current entry => declareOn entry current) right) := by
  induction replayed generalizing left right with
  | nil => exact hsame
  | cons entry rest ih => exact ih (samePaths_declareOn hsame entry)

/-- Two annotations may be declared in either order. -/
theorem declareOn_declareOn (left right : Annotation) (type : TypeDef) :
    (declareOn right (declareOn left type)).SamePaths
      (declareOn left (declareOn right type)) := by
  have hother : ∀ {entry : Annotation} {current : TypeDef}, current.name = type.name →
      type.name ≠ entry.element → declareOn entry current = current := by
    intro entry current hname hne
    rw [declareOn, if_neg (hname ▸ hne)]
  by_cases hleft : type.name = left.element
  · by_cases hright : type.name = right.element
    · simp only [declareOn, if_pos hleft, if_pos hright, Registry.name_addMethod]
      exact type.addMethod_addMethod left.method left.path right.method right.path
    · rw [hother rfl hright, hother (name_declareOn left type) hright]
      exact .refl _
  · rw [hother rfl hleft, hother (name_declareOn right type) hleft]
    exact .refl _

/-- Annotations may be replayed in any order. -/
theorem samePaths_replay_of_perm {first second : List Annotation} (hperm : first.Perm second)
    (type : TypeDef) : (replay first type).SamePaths (replay second type) := by
  rw [replay_eq_foldl, replay_eq_foldl]
  induction hperm generalizing type with
  | nil => exact .refl type
  | cons entry _ ih => exact ih (declareOn entry type)
  | swap left right rest =>
      exact samePaths_foldl_declareOn (declareOn_declareOn right left type) rest
  | trans _ _ ihFirst ihSecond => exact (ihFirst type).trans (ihSecond type)

/-- Annotations that are declared already change nothing. -/
theorem replay_of_hasMethod {replayed : List Annotation} {type : TypeDef}
    (hdeclared : ∀ entry ∈ replayed, type.name = entry.element →
      type.hasMethod entry.method entry.path = true) : replay replayed type = type := by
  rw [replay_eq_foldl]
  induction replayed with
  | nil => rfl
  | cons entry rest ih =>
      have hunchanged : declareOn entry type = type := by
        rw [declareOn]
        split
        · next hname =>
          exact TypeDef.addMethod_of_hasMethod (hdeclared entry List.mem_cons_self hname)
        · rfl
      rw [List.foldl_cons, hunchanged]
      exact ih fun other hother => hdeclared other (List.mem_cons_of_mem entry hother)

theorem replay_replay (replayed : List Annotation) (type : TypeDef) :
    replay replayed (replay replayed type) = replay replayed type := by
  apply replay_of_hasMethod
  intro entry hmem hname
  rw [hasMethod_replay]
  rw [name_replay] at hname
  exact Or.inr (hname ▸ hmem)

/-! ## Walking several descriptions -/

variable {registry : Registry} {statuses : List String}

theorem Progress.eq_of_parts_eq {left right : Progress}
    (hregistry : left.registry = right.registry) (hreport : left.report = right.report) :
    left = right := by
  cases left
  cases right
  cases hregistry
  cases hreport
  rfl

theorem types_collect (application : Element) :
    (collect registry statuses application).registry.types =
      registry.types.map (replay (annotations statuses application)) := by
  rw [collect_eq, types_foldl_declare]

theorem types_collect_collect (first second : Element) :
    (collect (collect registry statuses first).registry statuses second).registry.types =
      registry.types.map
        (replay (annotations statuses first ++ annotations statuses second)) := by
  rw [types_collect, types_collect, List.map_map]
  apply List.map_congr_left
  intro type _
  rw [Function.comp_apply, replay_eq_foldl, replay_eq_foldl, replay_eq_foldl, List.foldl_append]

/-- What was walked before does not show in the report of a walk. -/
theorem report_collect_collect (first second : Element) :
    (collect (collect registry statuses first).registry statuses second).report =
      (collect registry statuses second).report := by
  have hcontains : (collect registry statuses first).registry.contains = registry.contains := by
    rw [collect_eq]
    exact contains_foldl_declare registry _
  rw [collect_eq (collect registry statuses first).registry, collect_eq registry statuses second,
    hcontains]

theorem collect_collect_self (application : Element) :
    collect (collect registry statuses application).registry statuses application =
      collect registry statuses application := by
  have hregistry :
      (collect (collect registry statuses application).registry statuses application).registry =
        (collect registry statuses application).registry := by
    apply Registry.ext
    rw [types_collect, types_collect, List.map_map]
    apply List.map_congr_left
    intro type _
    exact replay_replay (annotations statuses application) type
  exact Progress.eq_of_parts_eq hregistry (report_collect_collect application application)

/-- A second walk over the same description changes nothing and gives the same report.  Two
descriptions may be walked in either order: the registered types stay the same and in the same
order, each has the same methods on the same paths, and both reports are the same as for a walk
alone. -/
theorem collect_repeats_and_commutes (registry : Registry) (statuses : List String)
    (first second : Element) :
    collect (collect registry statuses first).registry statuses first =
      collect registry statuses first ∧
    List.Forall₂ TypeDef.SamePaths
      (collect (collect registry statuses first).registry statuses second).registry.types
      (collect (collect registry statuses second).registry statuses first).registry.types ∧
    (collect (collect registry statuses first).registry statuses second).report =
      (collect registry statuses second).report ∧
    (collect (collect registry statuses second).registry statuses first).report =
      (collect registry statuses first).report := by
  refine ⟨collect_collect_self first, ?_, report_collect_collect first second,
    report_collect_collect second first⟩
  rw [types_collect_collect, types_collect_collect, List.forall₂_map_left_iff,
    List.forall₂_map_right_iff, List.forall₂_same]
  intro type _
  exact samePaths_replay_of_perm List.perm_append_comm type

end Resource

end RestModel

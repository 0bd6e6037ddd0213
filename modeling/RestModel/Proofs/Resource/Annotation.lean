import RestModel.Proofs.Registry.Lookup
import RestModel.Resource.Annotation

/-!
# What a walk over a resource description changes

A walk declares methods one after the other, in the order of its list of steps.  It changes the
paths of registered types and nothing else.
-/

namespace RestModel

/-- The type without its paths. -/
def TypeDef.withoutPaths (type : TypeDef) : TypeDef :=
  { type with paths := .empty }

/-- Types that are the same without their paths differ in their paths only. -/
theorem TypeDef.eq_of_withoutPaths_eq {left right : TypeDef}
    (hsame : left.withoutPaths = right.withoutPaths) :
    left = { right with paths := left.paths } := by
  cases left
  cases right
  simp only [withoutPaths, TypeDef.mk.injEq] at hsame ⊢
  tauto

theorem TypeDef.withoutPaths_addMethod (type : TypeDef) (method path : String) :
    (type.addMethod method path).withoutPaths = type.withoutPaths := by
  rw [addMethod]
  split <;> rfl

theorem Registry.withoutPaths_addMethod (registry : Registry) (name method path : String) :
    (registry.addMethod name method path).types.map TypeDef.withoutPaths =
      registry.types.map TypeDef.withoutPaths := by
  rw [addMethod, types_mapTypes, List.map_map]
  apply List.map_congr_left
  intro type _
  rw [Function.comp_apply]
  split
  · exact type.withoutPaths_addMethod method path
  · rfl

namespace Resource

open Xml

/-- What one step does to a registry and its report. -/
def Progress.follow (progress : Progress) : Step → Progress
  | .unnamedMethod _ => progress
  | .reference path method element => progress.annotate path method (Naming.localPart element)

variable {statuses : List String} {path parent : String} {progress : Progress}

theorem annotateMethod_eq_foldl (method : Element) :
    annotateMethod statuses path progress method =
      (methodSteps statuses path method).foldl Progress.follow progress := by
  rw [annotateMethod, methodSteps]
  split
  · next name _ =>
    rw [List.foldl_flatMap]
    apply congrArg (fun step => (bodies statuses method).foldl step progress)
    funext current body
    rw [annotateBody, List.foldl_map]
    rfl
  · rfl

theorem annotateMethods_eq_foldl (methods : List Element) :
    methods.foldl (annotateMethod statuses path) progress =
      (methods.flatMap (methodSteps statuses path)).foldl Progress.follow progress := by
  rw [List.foldl_flatMap]
  apply congrArg (fun step => methods.foldl step progress)
  funext current method
  exact annotateMethod_eq_foldl method

mutual

theorem walkResource_eq_foldl (statuses : List String) (parent : String) (progress : Progress)
    (resource : Element) : walkResource statuses parent progress resource =
      (resourceSteps statuses parent resource).foldl Progress.follow progress := by
  obtain ⟨name, attributes, children, text⟩ := resource
  rw [walkResource, resourceSteps, List.foldl_append, ← annotateMethods_eq_foldl]
  exact walkResources_eq_foldl statuses _ _ children

theorem walkResources_eq_foldl (statuses : List String) (parent : String) (progress : Progress)
    (nodes : List Element) : walkResources statuses parent progress nodes =
      (resourcesSteps statuses parent nodes).foldl Progress.follow progress := by
  cases nodes with
  | nil => rw [walkResources, resourcesSteps, List.foldl_nil]
  | cons node rest =>
      rw [walkResources, resourcesSteps, List.foldl_append]
      by_cases hresource : node.localName = "resource"
      · rw [if_pos hresource, if_pos hresource,
          ← walkResource_eq_foldl statuses parent progress node]
        exact walkResources_eq_foldl statuses parent _ rest
      · rw [if_neg hresource, if_neg hresource]
        exact walkResources_eq_foldl statuses parent progress rest

end

/-- A walk takes the steps of the description in order. -/
theorem collect_eq_foldl (registry : Registry) (statuses : List String) (application : Element) :
    collect registry statuses application =
      (steps statuses application).foldl Progress.follow ⟨registry, ⟨0, []⟩⟩ := by
  rw [collect, steps]
  split
  · rfl
  · next resources _ => exact walkResources_eq_foldl statuses _ _ resources.children

theorem withoutPaths_follow (progress : Progress) (step : Step) :
    (progress.follow step).registry.types.map TypeDef.withoutPaths =
      progress.registry.types.map TypeDef.withoutPaths := by
  cases step with
  | unnamedMethod path => rfl
  | reference path method element =>
      rw [Progress.follow, Progress.annotate]
      split
      · exact progress.registry.withoutPaths_addMethod _ method path
      · rfl

theorem withoutPaths_foldl_follow (progress : Progress) (steps : List Step) :
    (steps.foldl Progress.follow progress).registry.types.map TypeDef.withoutPaths =
      progress.registry.types.map TypeDef.withoutPaths := by
  induction steps generalizing progress with
  | nil => rfl
  | cons step rest ih => rw [List.foldl_cons, ih, withoutPaths_follow]

/-- A walk changes nothing but paths. -/
theorem withoutPaths_collect (registry : Registry) (statuses : List String)
    (application : Element) :
    (collect registry statuses application).registry.types.map TypeDef.withoutPaths =
      registry.types.map TypeDef.withoutPaths := by
  rw [collect_eq_foldl]
  exact withoutPaths_foldl_follow _ _

end Resource

end RestModel

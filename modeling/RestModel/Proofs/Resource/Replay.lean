import RestModel.Proofs.OrderedMap
import RestModel.Proofs.Resource.Annotation

/-!
# A walk replays annotations

The annotations of a resource description are the triples of a path, a method and an element, in
document order, each resource before the ones below it.  A walk declares them one after the other
on the types registered under the names of the elements.  It counts the annotations whose element
has a type and reports the others.
-/

namespace RestModel

/-! ## What declaring a method changes -/

theorem TypeDef.hasMethod_addMethod {type : TypeDef} {method path other place : String} :
    (type.addMethod method path).hasMethod other place = true ↔
      type.hasMethod other place = true ∨ other = method ∧ place = path := by
  rw [addMethod]
  split
  · next hdeclared =>
    constructor
    · exact Or.inl
    · rintro (hbefore | ⟨rfl, rfl⟩)
      · exact hbefore
      · exact hdeclared
  · simp only [hasMethod, methodsOn, OrderedMap.get?_insert]
    by_cases hplace : place = path
    · subst hplace
      simp
    · simp [hplace]

theorem Registry.contains_addMethod (registry : Registry) (name method path : String) :
    (registry.addMethod name method path).contains = registry.contains := by
  funext other
  rw [Bool.eq_iff_iff, contains_eq_true_iff, contains_eq_true_iff, addMethod, names_mapTypes]

theorem Registry.addMethod_of_not_contains {registry : Registry} {name : String}
    (method path : String) (habsent : registry.contains name = false) :
    registry.addMethod name method path = registry := by
  apply Registry.ext
  rw [addMethod, types_mapTypes]
  apply map_eq_self
  intro type hmem
  have hne : type.name ≠ name := by
    rintro rfl
    rw [contains_eq_true_iff.mpr (name_mem_names hmem)] at habsent
    exact Bool.noConfusion habsent
  rw [if_neg hne]

namespace Resource

open Xml

/-! ## The annotations of a description -/

/-- An element travels in the requests or successful responses of a method of a path. -/
structure Annotation where
  path : String
  method : String
  element : String
  deriving DecidableEq

/-- A word of the status of the response is a status of success. -/
def ReportsSuccess (statuses : List String) (response : Element) : Prop :=
  ∃ status, response.attribute? "status" = some status ∧
    ∃ word ∈ Text.words status, word ∈ statuses

theorem isSuccess_iff {statuses : List String} {response : Element} :
    isSuccess statuses response = true ↔ ReportsSuccess statuses response := by
  rw [isSuccess, ReportsSuccess]
  cases response.attribute? "status" <;> simp

instance (statuses : List String) (response : Element) :
    Decidable (ReportsSuccess statuses response) :=
  decidable_of_iff _ isSuccess_iff

/-- The representations of a method: those of its requests, then those of its successful
responses. -/
def representations (statuses : List String) (method : Element) : List Element :=
  (method.childrenNamed "request" ++
      (method.childrenNamed "response").filter (fun response => ReportsSuccess statuses response))
    |>.flatMap (·.childrenNamed "representation")

/-- The annotations of a method of a path; a method without a name has none. -/
def methodAnnotations (statuses : List String) (path : String) (method : Element) :
    List Annotation :=
  ((method.attribute? "name").filter (· ≠ "")).toList.flatMap (fun name =>
    ((representations statuses method).filterMap (·.attribute? "element")).map
      (fun element => ⟨path, name, Naming.localPart element⟩))

mutual

/-- A resource with its path, then the resources below it with theirs. -/
def located (parent : String) : Element → List (String × Element)
  | ⟨name, attributes, children, text⟩ =>
    let resource : Element := ⟨name, attributes, children, text⟩
    let path := Path.append parent ((resource.attribute? "path").getD "")
    (path, resource) :: locatedAmong path children

/-- The resources among some nodes and below these, in document order. -/
def locatedAmong (parent : String) : List Element → List (String × Element)
  | [] => []
  | node :: rest =>
    (if node.localName = "resource" then located parent node else []) ++ locatedAmong parent rest

end

/-- The annotations of a resource with its path. -/
def annotationsAt (statuses : List String) (place : String × Element) : List Annotation :=
  (place.2.childrenNamed "method").flatMap (methodAnnotations statuses place.1)

/-- The annotations of a description: those of all its resources, in document order. -/
def annotations (statuses : List String) (application : Element) : List Annotation :=
  match application.child? "resources" with
  | none => []
  | some resources =>
    (locatedAmong (Path.base ((resources.attribute? "base").getD "")) resources.children).flatMap
      (annotationsAt statuses)

/-! ## The steps of a walk are its annotations -/

/-- The annotation made by a step. -/
def Step.annotation? : Step → Option Annotation
  | .unnamedMethod _ => none
  | .reference path method element => some ⟨path, method, Naming.localPart element⟩

variable {statuses : List String} {path parent : String}

theorem filterMap_methodSteps (method : Element) :
    (methodSteps statuses path method).filterMap Step.annotation? =
      methodAnnotations statuses path method := by
  have hbodies : bodies statuses method = method.childrenNamed "request" ++
      (method.childrenNamed "response").filter
        (fun response => ReportsSuccess statuses response) := by
    have hsuccess : isSuccess statuses =
        fun response => decide (ReportsSuccess statuses response) := by
      funext response
      rw [Bool.eq_iff_iff, isSuccess_iff, decide_eq_true_iff]
    rw [bodies, hsuccess]
  have hname : methodName? method = (method.attribute? "name").filter (· ≠ "") := by
    have hnonempty : (fun name : String => !name.isEmpty) = fun name => decide (name ≠ "") := by
      funext name
      rw [Bool.eq_iff_iff]
      simp
    rw [methodName?, hnonempty]
  rw [methodSteps, methodAnnotations, hname, representations, ← hbodies]
  cases (method.attribute? "name").filter (· ≠ "") with
  | none => rfl
  | some name =>
      simp only [Option.toList_some, List.flatMap_singleton, List.filterMap_flatMap,
        List.map_flatMap]
      apply congrArg (fun step => (bodies statuses method).flatMap step)
      funext body
      rw [List.filterMap_map, representedElements, ← List.filterMap_eq_map]
      rfl

mutual

theorem filterMap_resourceSteps (statuses : List String) (parent : String) (resource : Element) :
    (resourceSteps statuses parent resource).filterMap Step.annotation? =
      (located parent resource).flatMap (annotationsAt statuses) := by
  obtain ⟨name, attributes, children, text⟩ := resource
  rw [resourceSteps, located, List.filterMap_append, List.filterMap_flatMap, List.flatMap_cons,
    filterMap_resourcesSteps statuses _ children]
  simp only [filterMap_methodSteps]
  rfl

theorem filterMap_resourcesSteps (statuses : List String) (parent : String)
    (nodes : List Element) :
    (resourcesSteps statuses parent nodes).filterMap Step.annotation? =
      (locatedAmong parent nodes).flatMap (annotationsAt statuses) := by
  cases nodes with
  | nil => rw [resourcesSteps, locatedAmong, List.filterMap_nil, List.flatMap_nil]
  | cons node rest =>
      rw [resourcesSteps, locatedAmong, List.filterMap_append, List.flatMap_append,
        filterMap_resourcesSteps statuses parent rest, List.append_cancel_right_eq]
      by_cases hresource : node.localName = "resource"
      · rw [if_pos hresource, if_pos hresource]
        exact filterMap_resourceSteps statuses parent node
      · rw [if_neg hresource, if_neg hresource, List.filterMap_nil, List.flatMap_nil]

end

theorem filterMap_steps (statuses : List String) (application : Element) :
    (steps statuses application).filterMap Step.annotation? =
      annotations statuses application := by
  rw [steps, annotations]
  cases application.child? "resources" with
  | none => rfl
  | some resources => exact filterMap_resourcesSteps statuses _ resources.children

/-! ## Following annotations -/

/-- Declare one annotation on the type registered under the name of its element. -/
def declare (registry : Registry) (entry : Annotation) : Registry :=
  registry.addMethod entry.element entry.method entry.path

theorem follow_eq (progress : Progress) (step : Step) :
    progress.follow step = (step.annotation?.map (fun entry =>
      progress.annotate entry.path entry.method entry.element)).getD progress := by
  cases step <;> rfl

theorem foldl_follow_eq (progress : Progress) (steps : List Step) :
    steps.foldl Progress.follow progress =
      (steps.filterMap Step.annotation?).foldl (fun current entry =>
        current.annotate entry.path entry.method entry.element) progress := by
  rw [List.foldl_filterMap]
  apply congrArg (fun step => steps.foldl step progress)
  funext current step
  rw [follow_eq]
  cases step.annotation? <;> rfl

theorem contains_foldl_declare (registry : Registry) (replayed : List Annotation) :
    (replayed.foldl declare registry).contains = registry.contains := by
  induction replayed generalizing registry with
  | nil => rfl
  | cons entry rest ih => rw [List.foldl_cons, ih, declare, Registry.contains_addMethod]

/-- Annotating one after the other is declaring all, and counting and listing what was found and
what was missing at the start. -/
theorem foldl_annotate_eq (progress : Progress) (replayed : List Annotation) :
    replayed.foldl (fun current entry =>
        current.annotate entry.path entry.method entry.element) progress =
      { registry := replayed.foldl declare progress.registry
        report :=
          { annotated := progress.report.annotated +
              replayed.countP (fun entry => progress.registry.contains entry.element)
            unregistered := progress.report.unregistered ++
              (replayed.filter (fun entry =>
                !progress.registry.contains entry.element)).map
                  (fun entry => (entry.path, entry.element)) } } := by
  induction replayed generalizing progress with
  | nil => simp
  | cons entry rest ih =>
      rw [List.foldl_cons, ih, List.foldl_cons, Progress.annotate]
      cases hregistered : progress.registry.contains entry.element with
      | true =>
          simp [hregistered, declare, Registry.contains_addMethod, Nat.add_assoc, Nat.add_comm]
      | false =>
          simp [hregistered, declare, Registry.addMethod_of_not_contains]

/-- A walk declares the annotations in order, counts those whose element has a type and reports the
others. -/
theorem collect_eq (registry : Registry) (statuses : List String) (application : Element) :
    collect registry statuses application =
      { registry := (annotations statuses application).foldl declare registry
        report :=
          { annotated := (annotations statuses application).countP
              (fun entry => registry.contains entry.element)
            unregistered := ((annotations statuses application).filter
              (fun entry => !registry.contains entry.element)).map
                (fun entry => (entry.path, entry.element)) } } := by
  rw [collect_eq_foldl, foldl_follow_eq, filterMap_steps, foldl_annotate_eq, Nat.zero_add,
    List.nil_append]

/-! ## Types after a walk -/

/-- The type with the methods that annotations declare on it. -/
def replay (replayed : List Annotation) (type : TypeDef) : TypeDef :=
  (replayed.filter (·.element == type.name)).foldl
    (fun current entry => current.addMethod entry.method entry.path) type

theorem replay_cons (entry : Annotation) (rest : List Annotation) (type : TypeDef) :
    replay (entry :: rest) type =
      replay rest (if type.name = entry.element then
        type.addMethod entry.method entry.path else type) := by
  rw [replay, replay]
  by_cases hname : type.name = entry.element
  · simp [hname, Registry.name_addMethod]
  · simp [hname, Ne.symm hname]

theorem types_foldl_declare (registry : Registry) (replayed : List Annotation) :
    (replayed.foldl declare registry).types = registry.types.map (replay replayed) := by
  induction replayed generalizing registry with
  | nil => exact (List.map_id registry.types).symm
  | cons entry rest ih =>
      rw [List.foldl_cons, ih, declare, Registry.addMethod, Registry.types_mapTypes, List.map_map]
      apply List.map_congr_left
      intro type _
      rw [replay_cons, Function.comp_apply]

theorem hasMethod_replay (replayed : List Annotation) {type : TypeDef} {method path : String} :
    (replay replayed type).hasMethod method path = true ↔
      type.hasMethod method path = true ∨ ⟨path, method, type.name⟩ ∈ replayed := by
  induction replayed generalizing type with
  | nil => simp [replay]
  | cons entry rest ih =>
      rw [replay_cons, ih, List.mem_cons, Annotation.mk.injEq]
      by_cases hname : type.name = entry.element
      · rw [if_pos hname, TypeDef.hasMethod_addMethod, Registry.name_addMethod]
        tauto
      · rw [if_neg hname]
        tauto

theorem name_replay (replayed : List Annotation) (type : TypeDef) :
    (replay replayed type).name = type.name := by
  induction replayed generalizing type with
  | nil => rfl
  | cons entry rest ih =>
      rw [replay_cons, ih]
      split
      · exact Registry.name_addMethod type entry.method entry.path
      · rfl

/-- A walk declares the annotations of the description in order and leaves everything but paths as
it is, so that a type has exactly the methods that it had and those that annotations give it.  It
counts the annotations whose element has a type and lists the others in order.  Without a list of
resources it does nothing. -/
theorem collect_replays_annotations (registry : Registry) (statuses : List String)
    (application : Element) :
    (collect registry statuses application).registry =
      (annotations statuses application).foldl declare registry ∧
    (collect registry statuses application).registry.types.map TypeDef.withoutPaths =
      registry.types.map TypeDef.withoutPaths ∧
    (∀ type ∈ registry.types, ∃ walked,
      (collect registry statuses application).registry.get? type.name = some walked ∧
      ∀ method path, walked.hasMethod method path = true ↔
        type.hasMethod method path = true ∨
          ⟨path, method, type.name⟩ ∈ annotations statuses application) ∧
    (collect registry statuses application).report.annotated =
      (annotations statuses application).countP
        (fun entry => registry.contains entry.element) ∧
    (collect registry statuses application).report.unregistered =
      ((annotations statuses application).filter
        (fun entry => !registry.contains entry.element)).map
          (fun entry => (entry.path, entry.element)) ∧
    (application.child? "resources" = none →
      collect registry statuses application = ⟨registry, ⟨0, []⟩⟩) := by
  have hcollect := collect_eq registry statuses application
  refine ⟨?_, withoutPaths_collect registry statuses application, ?_, ?_, ?_, ?_⟩
  · rw [hcollect]
  · intro type hmem
    refine ⟨replay (annotations statuses application) type, ?_, fun _ _ => hasMethod_replay _⟩
    rw [hcollect, Registry.get?_eq_some_iff, types_foldl_declare]
    exact ⟨List.mem_map_of_mem hmem, name_replay _ type⟩
  · rw [hcollect]
  · rw [hcollect]
  · intro hnone
    rw [collect, hnone]

/-- Users are listed, and below that a user is written. -/
def usersDescription : Element :=
  let body (name status element : String) : Element :=
    ⟨name, [("status", status)], [⟨"representation", [("element", element)], [], ""⟩], ""⟩
  ⟨"application", [], [⟨"resources", [("base", "https://host/api/rest")], [
    ⟨"resource", [("path", "users")], [
      ⟨"resource", [("path", "\x7bid\x7d")], [
        ⟨"method", [("name", "PUT")], [
          body "response" "200" "user:plcm-user", body "request" "" "plcm-form"], ""⟩], ""⟩,
      ⟨"method", [("name", "")], [body "request" "" "user:plcm-user"], ""⟩,
      ⟨"method", [("name", "GET")], [
        body "response" "404" "plcm-error", body "response" "204 200" "list:plcm-user-list"], ""⟩],
      ""⟩], ""⟩], ""⟩

example : annotations ["200"] usersDescription = [
    ⟨"/api/rest/users", "GET", "plcm-user-list"⟩,
    ⟨"/api/rest/users/\x7bid\x7d", "PUT", "plcm-form"⟩,
    ⟨"/api/rest/users/\x7bid\x7d", "PUT", "plcm-user"⟩] := by
  decide +kernel

end Resource

end RestModel

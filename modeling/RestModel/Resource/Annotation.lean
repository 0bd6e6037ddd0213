import RestModel.Path.Resource
import RestModel.Registry.Basic
import RestModel.Text.Blank
import RestModel.Xml.Element

/-!
# Annotations of a resource description

A resource description tells which methods a path has and which elements travel in their requests
and successful responses.  Walking it declares every such method on the type of the element.
References to elements without a type are reported and otherwise ignored.
-/

namespace RestModel.Resource

open Xml

/-- The outcome of walking a resource description. -/
structure PathReport where
  /-- The number of methods declared on registered types. -/
  annotated : Nat
  /-- The references to elements without a type, each a path and the name of the element. -/
  unregistered : List (String × String)

/-- A registry together with the report of the walk so far. -/
structure Progress where
  registry : Registry
  report : PathReport

namespace Progress

/-- Declare a method of a path on the type of an element, or report that there is no such type. -/
def annotate (progress : Progress) (path method element : String) : Progress :=
  if progress.registry.contains element then
    ⟨progress.registry.addMethod element method path,
      { progress.report with annotated := progress.report.annotated + 1 }⟩
  else
    { progress with report :=
        { progress.report with
          unregistered := progress.report.unregistered ++ [(path, element)] } }

end Progress

/-- The elements that the representations of a request or response refer to. -/
def representedElements (body : Element) : List String :=
  (body.childrenNamed "representation").filterMap (·.attribute? "element")

/-- Whether the status of a response is one of the statuses of success. -/
def isSuccess (statuses : List String) (response : Element) : Bool :=
  match response.attribute? "status" with
  | some status => (Text.words status).any statuses.contains
  | none => false

/-- The requests and successful responses of a method. -/
def bodies (statuses : List String) (method : Element) : List Element :=
  method.childrenNamed "request" ++
    (method.childrenNamed "response").filter (isSuccess statuses)

/-- The name of a method that has one. -/
def methodName? (method : Element) : Option String :=
  (method.attribute? "name").filter (!·.isEmpty)

/-- Declare a method on the types of the elements of one request or response. -/
def annotateBody (path method : String) (progress : Progress) (body : Element) : Progress :=
  (representedElements body).foldl
    (fun progress element => progress.annotate path method (Naming.localPart element)) progress

/-- Declare one method of a path; a method without a name is skipped. -/
def annotateMethod (statuses : List String) (path : String) (progress : Progress)
    (method : Element) : Progress :=
  match methodName? method with
  | some name => (bodies statuses method).foldl (annotateBody path name) progress
  | none => progress

/-- The path of a resource below a parent path. -/
def pathOf (parent : String) (resource : Element) : String :=
  Path.append parent ((resource.attribute? "path").getD "")

mutual

/-- Walk a resource: its methods, then the resources below it. -/
def walkResource (statuses : List String) (parent : String) (progress : Progress) :
    Element → Progress
  | ⟨name, attributes, children, text⟩ =>
    let resource : Element := ⟨name, attributes, children, text⟩
    let path := pathOf parent resource
    walkResources statuses path
      ((resource.childrenNamed "method").foldl (annotateMethod statuses path) progress) children

/-- Walk the resources among some nodes, in order. -/
def walkResources (statuses : List String) (parent : String) (progress : Progress) :
    List Element → Progress
  | [] => progress
  | node :: rest =>
    walkResources statuses parent
      (if node.localName = "resource" then walkResource statuses parent progress node
        else progress) rest

end

/-- Walk a resource description.  Without a list of resources it declares nothing. -/
def collect (registry : Registry) (statuses : List String) (application : Element) : Progress :=
  let start : Progress := ⟨registry, ⟨0, []⟩⟩
  match application.child? "resources" with
  | none => start
  | some resources =>
    walkResources statuses (Path.base ((resources.attribute? "base").getD "")) start
      resources.children

/-! ## The walk as a list

The same walk, written down as the list of its steps.
-/

/-- One step of the walk. -/
inductive Step where
  /-- A method without a name, which is skipped. -/
  | unnamedMethod (path : String)
  /-- A representation that refers to an element, given by its qualified name. -/
  | reference (path method element : String)
  deriving DecidableEq

/-- The steps for one method of a path. -/
def methodSteps (statuses : List String) (path : String) (method : Element) : List Step :=
  match methodName? method with
  | some name =>
    (bodies statuses method).flatMap
      (fun body => (representedElements body).map (.reference path name))
  | none => [.unnamedMethod path]

mutual

/-- The steps for a resource: those of its methods, then those of the resources below it. -/
def resourceSteps (statuses : List String) (parent : String) : Element → List Step
  | ⟨name, attributes, children, text⟩ =>
    let resource : Element := ⟨name, attributes, children, text⟩
    let path := pathOf parent resource
    (resource.childrenNamed "method").flatMap (methodSteps statuses path) ++
      resourcesSteps statuses path children

/-- The steps for the resources among some nodes, in order. -/
def resourcesSteps (statuses : List String) (parent : String) : List Element → List Step
  | [] => []
  | node :: rest =>
    (if node.localName = "resource" then resourceSteps statuses parent node else []) ++
      resourcesSteps statuses parent rest

end

/-- The steps for a resource description. -/
def steps (statuses : List String) (application : Element) : List Step :=
  match application.child? "resources" with
  | none => []
  | some resources =>
    resourcesSteps statuses (Path.base ((resources.attribute? "base").getD "")) resources.children

end RestModel.Resource

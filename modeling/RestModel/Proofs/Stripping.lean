import RestModel.Proofs.Xml.Stripping
import RestModel.Resource.Annotation
import RestModel.Schema.Extraction

/-!
# What does not matter in a document

Schemas and resource descriptions are read by the local names of their elements and by attributes
that say nothing about cardinality.  So a stripped document is read like the document itself, and two
documents that are the same when stripped are read in the same way.
-/

namespace RestModel

open Xml

/-! ## Schemas -/

namespace Schema

@[simp] theorem targetNamespace_stripped (schema : Element) :
    targetNamespace schema.stripped = targetNamespace schema := by
  simp [targetNamespace]

@[simp] theorem namePrefix_stripped (schema : Element) (source home : String) :
    namePrefix schema.stripped source home = namePrefix schema source home := by
  rw [namePrefix, targetNamespace_stripped, namePrefix]

@[simp] theorem facetValues_stripped (restriction : Element) :
    facetValues restriction.stripped = facetValues restriction := by
  simp [facetValues]

@[simp] theorem literals_stripped (simple : Element) :
    literals simple.stripped = literals simple := by
  rw [literals, Element.child?_stripped, literals]
  cases simple.child? "restriction" <;> simp

@[simp] theorem simpleName_stripped (hasComplexTypes : Bool) (rootName : String)
    (simple : Element) :
    simpleName hasComplexTypes rootName simple.stripped =
      simpleName hasComplexTypes rootName simple := by
  simp [simpleName]

@[simp] theorem documentation?_stripped (node : Element) :
    documentation? node.stripped = documentation? node := by
  rw [documentation?, Element.child?_stripped, documentation?]
  cases node.child? "annotation" with
  | none => rfl
  | some annotation =>
      rw [Option.map_some, Option.bind_eq_bind, Option.bind_some, Option.bind_some,
        Element.child?_stripped]
      cases annotation.child? "documentation" <;> simp

namespace Substitution

@[simp] theorem addElement_stripped (substitution : Substitution) (element : Element) :
    addElement substitution element.stripped = addElement substitution element := by
  simp [addElement]

@[simp] theorem addSimpleType_stripped (substitution : Substitution) (simple : Element) :
    addSimpleType substitution simple.stripped = addSimpleType substitution simple := by
  rw [addSimpleType, Element.child?_stripped, addSimpleType]
  cases hname : simple.attribute? "name" with
  | none => simp [hname]
  | some name => cases simple.child? "restriction" <;> simp [hname]

@[simp] theorem ofSchema_stripped (schema rootElement : Element) :
    ofSchema schema.stripped rootElement.stripped = ofSchema schema rootElement := by
  simp [ofSchema, List.foldl_map]

end Substitution

section Members

variable (substitution : Substitution) (node : Element)

@[simp] theorem attributeDeclaration?_stripped :
    attributeDeclaration? substitution node.stripped = attributeDeclaration? substitution node := by
  simp [attributeDeclaration?]

@[simp] theorem elementDeclaration?_stripped :
    elementDeclaration? substitution node.stripped = elementDeclaration? substitution node := by
  simp [elementDeclaration?]

@[simp] theorem sequenceElements_stripped :
    sequenceElements node.stripped = (sequenceElements node).map Element.stripped := by
  rw [sequenceElements, Element.child?_stripped, sequenceElements]
  cases node.child? "sequence" <;> simp

@[simp] theorem ownDeclarations_stripped :
    ownDeclarations substitution node.stripped = ownDeclarations substitution node := by
  simp [ownDeclarations]

@[simp] theorem extension?_stripped :
    extension? node.stripped = (extension? node).map Element.stripped := by
  rw [extension?, Element.child?_stripped, extension?]
  cases node.child? "complexContent" <;> simp

@[simp] theorem declarations_stripped :
    declarations substitution node.stripped = declarations substitution node := by
  simp [declarations, Function.comp_def]

@[simp] theorem complexBase?_stripped :
    complexBase? substitution node.stripped = complexBase? substitution node := by
  rw [complexBase?, extension?_stripped, complexBase?]
  cases extension? node <;> simp

@[simp] theorem complexType_stripped (blank : TypeDef) :
    complexType blank substitution node.stripped = complexType blank substitution node := by
  simp [complexType]

end Members

theorem ownComplexTypes_stripped (node : Element) : ownComplexTypes node.stripped =
    (ownComplexTypes node).map (fun entry => (entry.1, entry.2.stripped)) := by
  simp [ownComplexTypes, List.filterMap_map, List.map_filterMap, Function.comp_def]

mutual

theorem complexTypesOf_stripped (node : Element) : complexTypesOf node.stripped =
    (complexTypesOf node).map (fun entry => (entry.1, entry.2.stripped)) := by
  have hown := ownComplexTypes_stripped node
  obtain ⟨name, attributes, children, text⟩ := node
  rw [Element.stripped_eq] at hown ⊢
  rw [complexTypesOf, complexTypesOf, hown, complexTypesOfElements_stripped children,
    List.map_append]

theorem complexTypesOfElements_stripped (nodes : List Element) :
    complexTypesOfElements (nodes.map Element.stripped) =
      (complexTypesOfElements nodes).map (fun entry => (entry.1, entry.2.stripped)) := by
  cases nodes with
  | nil => rfl
  | cons node rest =>
      rw [List.map_cons, complexTypesOfElements, complexTypesOfElements,
        complexTypesOfElements_stripped rest, Element.localName_stripped, List.map_append]
      split
      · rw [complexTypesOf_stripped node]
      · rfl

end

/-- A stripped schema has the same types. -/
theorem types_stripped (schema : Element) (source home : String) :
    types schema.stripped source home = types schema source home := by
  rw [types, Element.child?_stripped, types]
  cases schema.child? "element" with
  | none => rfl
  | some rootElement => simp [complexTypesOf_stripped, Function.comp_def]

end Schema

/-! ## Resource descriptions -/

namespace Resource

@[simp] theorem representedElements_stripped (body : Element) :
    representedElements body.stripped = representedElements body := by
  simp [representedElements]

@[simp] theorem isSuccess_stripped (statuses : List String) (response : Element) :
    isSuccess statuses response.stripped = isSuccess statuses response := by
  simp [isSuccess]

@[simp] theorem methodName?_stripped (method : Element) :
    methodName? method.stripped = methodName? method := by
  simp [methodName?]

@[simp] theorem bodies_stripped (statuses : List String) (method : Element) :
    bodies statuses method.stripped = (bodies statuses method).map Element.stripped := by
  simp [bodies, List.filter_map, Function.comp_def]

@[simp] theorem pathOf_stripped (parent : String) (resource : Element) :
    pathOf parent resource.stripped = pathOf parent resource := by
  simp [pathOf]

@[simp] theorem annotateBody_stripped (path method : String) (progress : Progress)
    (body : Element) :
    annotateBody path method progress body.stripped = annotateBody path method progress body := by
  rw [annotateBody, representedElements_stripped, annotateBody]

@[simp] theorem annotateMethod_stripped (statuses : List String) (path : String)
    (progress : Progress) (method : Element) :
    annotateMethod statuses path progress method.stripped =
      annotateMethod statuses path progress method := by
  simp [annotateMethod, List.foldl_map]

mutual

theorem walkResource_stripped (statuses : List String) (parent : String) (progress : Progress)
    (resource : Element) : walkResource statuses parent progress resource.stripped =
      walkResource statuses parent progress resource := by
  have hpath := pathOf_stripped parent resource
  have hmethods := resource.childrenNamed_stripped "method"
  obtain ⟨name, attributes, children, text⟩ := resource
  rw [Element.stripped_eq] at hpath hmethods ⊢
  rw [walkResource, walkResource, hpath, hmethods, List.foldl_map]
  simp only [annotateMethod_stripped]
  exact walkResources_stripped statuses _ _ children

theorem walkResources_stripped (statuses : List String) (parent : String) (progress : Progress)
    (nodes : List Element) :
    walkResources statuses parent progress (nodes.map Element.stripped) =
      walkResources statuses parent progress nodes := by
  cases nodes with
  | nil => rfl
  | cons node rest =>
      rw [List.map_cons, walkResources, walkResources, Element.localName_stripped,
        walkResource_stripped statuses parent progress node]
      exact walkResources_stripped statuses parent _ rest

end

/-- A walk over a stripped description does the same. -/
theorem collect_stripped (registry : Registry) (statuses : List String) (application : Element) :
    collect registry statuses application.stripped = collect registry statuses application := by
  rw [collect, Element.child?_stripped, collect]
  cases application.child? "resources" with
  | none => rfl
  | some resources => simp [walkResources_stripped]

end Resource

/-- Two documents that are the same but for the prefixes of their elements and for cardinality have
the same types as schemas, and are walked with the same result as resource descriptions. -/
theorem reads_same_of_stripped_eq {left right : Element} (hsame : left.stripped = right.stripped) :
    (∀ source home, Schema.types left source home = Schema.types right source home) ∧
    ∀ registry statuses, Resource.collect registry statuses left =
      Resource.collect registry statuses right := by
  constructor
  · intro source home
    rw [← Schema.types_stripped left, hsame, Schema.types_stripped]
  · intro registry statuses
    rw [← Resource.collect_stripped registry statuses left, hsame, Resource.collect_stripped]

/-- A schema of users with roles, given the prefix of its elements and the cardinality of roles. -/
def rolesSchema (start : String) (cardinality : List (String × String)) : Element :=
  ⟨start ++ "schema", [("targetNamespace", "urn:polycom:user")],
    [⟨start ++ "element", [("name", "plcm-user")], [⟨start ++ "complexType", [],
      [⟨start ++ "sequence", [], [⟨start ++ "element",
        cardinality ++ [("ref", "plcm-role:plcm-role")], [], ""⟩], ""⟩], ""⟩], ""⟩], ""⟩

/-- A description of users, given the prefix of its elements and the cardinality of its resource. -/
def membersDescription (start : String) (cardinality : List (String × String)) : Element :=
  ⟨start ++ "application", [], [⟨start ++ "resources", [("base", "http://host/api")],
    [⟨start ++ "resource", cardinality ++ [("path", "users")],
      [⟨start ++ "method", [("name", "GET")], [⟨start ++ "response", [("status", "200")],
        [⟨start ++ "representation", [("element", "user:plcm-user")], [], ""⟩], ""⟩], ""⟩],
      ""⟩], ""⟩], ""⟩

/-- A schema and a description, each written in two ways. -/
theorem reads_same_rolesSchema :
    Schema.types (rolesSchema "xs:" [("minOccurs", "0")]) "user" "polycom" =
      Schema.types (rolesSchema "" [("maxOccurs", "unbounded")]) "user" "polycom" ∧
    (Schema.types (rolesSchema "" [("maxOccurs", "unbounded")]) "user" "polycom").map
      (·.members.keys) = [["plcm-role"]] ∧
    Resource.collect .empty ["200"] (membersDescription "wadl:" []) =
      Resource.collect .empty ["200"] (membersDescription "" [("minOccurs", "2")]) ∧
    (Resource.collect .empty ["200"] (membersDescription "wadl:" [])).report.unregistered =
      [("/api/users", "plcm-user")] := by
  have hschemas : (rolesSchema "xs:" [("minOccurs", "0")]).stripped =
      (rolesSchema "" [("maxOccurs", "unbounded")]).stripped := rfl
  have hdescriptions : (membersDescription "wadl:" []).stripped =
      (membersDescription "" [("minOccurs", "2")]).stripped := rfl
  exact ⟨(reads_same_of_stripped_eq hschemas).1 "user" "polycom", by decide +kernel,
    (reads_same_of_stripped_eq hdescriptions).2 .empty ["200"], by decide +kernel⟩

end RestModel

import RestModel.Compilation
import RestModel.Notice
import RestModel.Schema.Occurrence

/-!
# Notices of a compilation

What a compilation tells about its work, stage by stage and in the order of the work.
-/

namespace RestModel

open Xml

/-! ## Schemas -/

namespace Schema

/-- A notice of reading a schema. -/
def notice (level : NoticeLevel) (text : String) : Notice :=
  ⟨level, .schema, text⟩

/-- The notices for the literals of an enumeration, in order: one for each whose key is taken. -/
def literalNotices (typeName : String) (members : OrderedMap String TypeRef) :
    List String → List Notice
  | [] => []
  | literal :: rest =>
    let key := Naming.enumKey (Naming.enumValue literal)
    let others := literalNotices typeName (insertLiteral members literal) rest
    if members.contains key then
      notice .warn (typeName ++ ": enumeration literal '" ++ literal ++ "' collides with key " ++
        key ++ ", stored as " ++ literalKey members literal) :: others
    else others

/-- The notices for a simple type, given the beginning of the type names of its schema. -/
def simpleNotices (source start name : String) (simple : Element) : List Notice :=
  if (literals simple).isEmpty then
    [notice .debug (source ++ ": " ++ name ++
      " is not a string enumeration, registered as a placeholder")]
  else literalNotices (start ++ name) .empty (literals simple)

/-- A cardinality as shown in a notice. -/
def Occurrence.text (occurrence : Occurrence) : String :=
  let max :=
    match occurrence.max with
    | some max => "Some(" ++ toString max ++ ")"
    | none => "None"
  "Occurs \x7b min: " ++ toString occurrence.min ++ ", max: " ++ max ++ " \x7d"

/-- The notices for the elements of a node that are declared by reference. -/
def referenceNotices (typeName : String) (node : Element) : List Notice :=
  (sequenceElements node).filterMap (fun element =>
    match element.attribute? "name", element.attribute? "ref" with
    | none, some reference =>
      some (notice .trace (typeName ++ ": " ++ reference ++ " occurs " ++
        (Occurrence.ofElement element).text))
    | _, _ => none)

/-- The notices for a complex type. -/
def complexNotices (typeName : String) (complex : Element) : List Notice :=
  referenceNotices typeName complex ++
    ((extension? complex).map (referenceNotices typeName)).getD []

/-- The notices of reading the types of a schema. -/
def notices (schema : Element) (source home : String) : List Notice :=
  match schema.child? "element" with
  | none => [notice .debug (source ++ ": no top-level element, no types extracted")]
  | some rootElement =>
    let start := namePrefix schema source home
    let rootName := (rootElement.attribute? "name").getD source
    let complexTypes := complexTypesOf schema
    let substitution := Substitution.ofSchema schema rootElement
    (schema.childrenNamed "simpleType").flatMap (fun simple =>
        simpleNotices source start (simpleName (!complexTypes.isEmpty) rootName simple) simple) ++
      complexTypes.flatMap (fun (name, complex) =>
        complexNotices (start ++ (substitution.find? name).getD name) complex)

end Schema

/-! ## Resource descriptions -/

namespace Resource

/-- The notice for a step of the walk, if it is worth one. -/
def stepNotice? (registry : Registry) : Step → Option Notice
  | .unnamedMethod path =>
    some ⟨.debug, .resource, path ++ ": skipping method without a name"⟩
  | .reference path method element =>
    if registry.contains (Naming.localPart element) then none
    else
      some ⟨.debug, .resource,
        method ++ " " ++ path ++ ": no registered type for " ++ element ++ ", skipping"⟩

/-- The notices of walking a resource description. -/
def notices (registry : Registry) (statuses : List String) (application : Element) :
    List Notice :=
  match application.child? "resources" with
  | none => [⟨.warn, .resource, "no resources found in resource document"⟩]
  | some _ => (steps statuses application).filterMap (stepNotice? registry)

end Resource

/-! ## The registry -/

namespace Registry

/-- The notices of registering types one after the other. -/
def insertNotices (registry : Registry) : List TypeDef → List Notice
  | [] => []
  | type :: rest =>
    let others := insertNotices (registry.insert type) rest
    if registry.contains type.name then
      ⟨.warn, .registry, "type " ++ type.name ++ " redefined; keeping the definition from " ++
        type.qualifiedName⟩ :: others
    else others

/-- The notices of looking up the references of a type. -/
def typeResolveNotices (known : String → Bool) (type : TypeDef) : List Notice :=
  (type.danglingMembers known).map (fun (member, ref) =>
    ⟨.debug, .registry, type.name ++ "." ++ member ++ ": no registered type for " ++ ref.raw⟩) ++
  (type.danglingBase? known).toList.map (fun ref =>
    ⟨.debug, .registry, type.name ++ ": base type " ++ ref.raw ++ " is not registered"⟩)

/-- The notices of looking up references. -/
def resolveNotices (registry : Registry) : List Notice :=
  registry.types.flatMap (typeResolveNotices registry.contains)

/-- The notices of looking for list types, for types that are listed already. -/
def takenNotices (registry : Registry) (suffix readMethod : String) :
    List String → List TypeDef → List Notice
  | _, [] => []
  | claimed, list :: rest =>
    match registry.foldChoice suffix readMethod claimed list with
    | .fold singular => takenNotices registry suffix readMethod (singular :: claimed) rest
    | .taken singular =>
      ⟨.debug, .collections, singular ++ " already has a collection; " ++ list.name ++
        " is left as a standalone type"⟩ :: takenNotices registry suffix readMethod claimed rest
    | .unrelated => takenNotices registry suffix readMethod claimed rest

/-- The notices of folding list types. -/
def foldNotices (registry : Registry) (suffix readMethod : String) : List Notice :=
  if suffix = "" then []
  else
    registry.takenNotices suffix readMethod [] registry.types ++
      (registry.folds suffix readMethod).map (fun fold =>
        ⟨.info, .collections, "folding " ++ fold.list ++ " into " ++ fold.singular ++
          " as its collection"⟩)

end Registry

/-! ## Descriptors -/

namespace Endpoints

/-- The notice for a collision. -/
def collisionNotice (collision : Collision) : Notice :=
  ⟨.error, .endpoints, collision.secondPath ++ " already has suffix \"" ++ collision.suffix ++
    "\" (from " ++ collision.firstPath ++ "); cannot reduce paths for collection " ++
    collision.typeName ++ " to unique names"⟩

/-- The notices of naming the endpoints of a collection. -/
def notices (typeName : String) (found : Endpoints) : List Notice :=
  if found.endpoints.length < 2 then []
  else
    found.collisions.map collisionNotice ++
      [⟨.info, .endpoints, "multiple collection suffixes generated for " ++ typeName ++ ": " ++
        ", ".intercalate (found.endpoints.map (fun endpoint =>
          "\"" ++ endpoint.suffix ++ "\" => " ++ endpoint.path))⟩]

end Endpoints

/-- The notice for a type without members. -/
def TypeDef.memberlessNotices (type : TypeDef) : List Notice :=
  if type.members.isEmpty then
    [⟨.info, .descriptors, type.name ++ " has no members; no constructor generated"⟩]
  else []

/-- The notices of describing a type. -/
def Descriptor.notices (readMethod : String) (type : TypeDef) : List Notice :=
  if type.isEnumeration then []
  else
    type.memberlessNotices ++
      match type.collection with
      | none => []
      | some list =>
        (Record.endpointsOf type list readMethod).notices type.name ++ list.memberlessNotices

/-- The notices of describing the types of a registry. -/
def Interface.notices (registry : Registry) (readMethod : String) : List Notice :=
  registry.types.flatMap (Descriptor.notices readMethod)

/-! ## The whole compilation -/

namespace Compilation

/-- The notices of registering the types of schema documents one after the other. -/
def registerNotices (home : String) (registry : Registry) : List SourceDocument → List Notice
  | [] => []
  | document :: rest =>
    let types := documentTypes home document
    Schema.notices document.root document.name home ++
      ⟨.debug, .compilation, document.path ++ ": " ++ toString types.length ++ " types"⟩ ::
      registry.insertNotices types ++
      registerNotices home (registry.insertAll types) rest

/-- The notice that ends a compilation. -/
def summary (stats : Stats) : Notice :=
  ⟨.info, .compilation, "compiled " ++ toString stats.schemas ++ " schemas and " ++
    toString stats.resources ++ " resource documents into " ++ toString stats.types ++
    " types (" ++ toString stats.collections ++ " collections)"⟩

/-- The notices of compiling documents.  Walking resource documents changes no names, so each walk
finds the types that were registered before. -/
def notices (options : Options) (documents : List SourceDocument) : List Notice :=
  let registered := register options.naming.homeNamespace documents
  let statuses := options.methods.successStatuses
  let annotated := (annotate statuses documents registered).registry
  let readMethod := options.methods.readMethod
  let compilation := ofDocuments options documents
  registerNotices options.naming.homeNamespace .empty (ofKind .schema documents) ++
    (ofKind .resource documents).flatMap
      (fun document => Resource.notices registered statuses document.root) ++
    annotated.resolveNotices ++
    annotated.resolve.foldNotices options.naming.listSuffix readMethod ++
    Interface.notices compilation.registry readMethod ++
    [summary compilation.stats]

end Compilation

end RestModel

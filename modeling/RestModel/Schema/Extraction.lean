import RestModel.Registry.TypeDef
import RestModel.Text.Blank
import RestModel.Text.Fragment
import RestModel.Xml.Element

/-!
# Types of a schema

A schema declares simple and complex types.  A simple type that restricts strings to a list of
literals becomes an enumeration, any other simple type a placeholder.  A complex type becomes a type
with members.  Inside one schema, a reference to a type may stand for something else: an element
declared with a type gives its name to that type, and a simple type is written out where it is used.
-/

namespace RestModel.Schema

open Xml

/-- The target namespace of a schema. -/
def targetNamespace (schema : Element) : String :=
  (schema.attribute? "targetNamespace").getD ""

/-- The beginning of the type names of a schema: nothing if its namespace holds the marker of the
home namespace, and the name of the document otherwise. -/
def namePrefix (schema : Element) (source home : String) : String :=
  if Text.contains home (targetNamespace schema) then "" else source ++ "-"

/-! ## Simple types -/

/-- Whether a base names the built-in string type. -/
def isStringBase (base : String) : Bool :=
  Naming.isPrimitive base && Naming.localPart base == "string"

/-- The values of the enumeration facets of a restriction, in order. -/
def facetValues (restriction : Element) : List String :=
  (restriction.childrenNamed "enumeration").filterMap (·.attribute? "value")

/-- The literals of a simple type that restricts strings; other simple types have none. -/
def literals (simple : Element) : List String :=
  match simple.child? "restriction" with
  | none => []
  | some restriction =>
    if (restriction.attribute? "base").any isStringBase then facetValues restriction else []

/-- A key followed by a number. -/
def numberedKey (key : String) (number : Nat) : String :=
  key ++ "_" ++ toString number

/-- The first free one of the keys numbered from `number` on, among at most `attempts` keys. -/
def firstFreeKey (isTaken : String → Bool) (key : String) : Nat → Nat → String
  | 0, number => numberedKey key number
  | attempts + 1, number =>
    if isTaken (numberedKey key number) then firstFreeKey isTaken key attempts (number + 1)
    else numberedKey key number

/-- The key of an enumeration literal among those already taken: its own, or the first free one of
its own with a number from two on.  Among one more numbers than there are keys one is free. -/
def literalKey (members : OrderedMap String TypeRef) (literal : String) : String :=
  let key := Naming.enumKey (Naming.enumValue literal)
  if members.contains key then firstFreeKey members.contains key members.keys.length 2 else key

/-- Add the member for an enumeration literal. -/
def insertLiteral (members : OrderedMap String TypeRef) (literal : String) :
    OrderedMap String TypeRef :=
  members.insert (literalKey members literal) (.literal (Naming.enumValue literal))

/-- The type of a simple type with the given literals. -/
def simpleType (blank : TypeDef) (literals : List String) : TypeDef :=
  if literals.isEmpty then { blank with base := some .listOfUnknown }
  else { blank with isEnumeration := true, members := literals.foldl insertLiteral .empty }

/-! ## Complex types -/

/-- The complex types directly below a node, with the names they are known by: their own, or that of
the element they belong to.  A complex type without either is left out. -/
def ownComplexTypes (node : Element) : List (String × Element) :=
  let enclosing := if node.localName = "element" then node.attribute? "name" else none
  (node.childrenNamed "complexType").filterMap
    (fun complex => (complex.attribute? "name" <|> enclosing).map (fun name => (name, complex)))

mutual

/-- The complex types below a node: its own, then those of the elements below it. -/
def complexTypesOf : Element → List (String × Element)
  | ⟨name, attributes, children, text⟩ =>
    ownComplexTypes ⟨name, attributes, children, text⟩ ++ complexTypesOfElements children

/-- The complex types of the elements among some nodes, in order. -/
def complexTypesOfElements : List Element → List (String × Element)
  | [] => []
  | node :: rest =>
    (if node.localName = "element" then complexTypesOf node else []) ++
      complexTypesOfElements rest

end

/-! ## Substitutions -/

/-- What the type references of one schema stand for, by local name. -/
abbrev Substitution := OrderedMap String String

namespace Substitution

/-- What a name stands for, if anything. -/
def find? (substitution : Substitution) (name : String) : Option String :=
  substitution.get? (Naming.localPart name)

/-- What a declared type stands for; built-in types stand for themselves. -/
def apply (substitution : Substitution) (raw : String) : String :=
  if Naming.isPrimitive raw then raw else (substitution.find? raw).getD raw

/-- An element declared with a type gives its name to that type. -/
def addElement (substitution : Substitution) (element : Element) : Substitution :=
  match element.attribute? "name", element.attribute? "type" with
  | some name, some type => substitution.insert (Naming.localPart type) name
  | _, _ => substitution

/-- How a simple type is written out: by its name and its values, or by its base if it has none. -/
def simpleText (name base : String) (values : List String) : String :=
  if values.isEmpty then base else name ++ " \x7b" ++ ",".intercalate values ++ "\x7d"

/-- A named restriction is written out where it is used. -/
def addSimpleType (substitution : Substitution) (simple : Element) : Substitution :=
  match simple.attribute? "name", simple.child? "restriction" with
  | some name, some restriction =>
    match restriction.attribute? "base" with
    | some base => substitution.insert name (simpleText name base (facetValues restriction))
    | none => substitution
  | _, _ => substitution

/-- The substitution of a schema.  Elements come last, so that their names win. -/
def ofSchema (schema rootElement : Element) : Substitution :=
  let first := addElement .empty rootElement
  let second := (schema.childrenNamed "simpleType").foldl addSimpleType first
  (schema.childrenNamed "element").foldl addElement second

end Substitution

/-! ## Members -/

/-- The plain text that documents a declaration. -/
def documentation? (node : Element) : Option String := do
  let annotation ← node.child? "annotation"
  let documentation ← annotation.child? "documentation"
  let text := Text.trim documentation.text
  if !documentation.children.isEmpty || text.isEmpty then none else some text

/-- The declaration of a member: its name, the text of its type and its documentation. -/
structure Declaration where
  name : String
  type : String
  doc : Option String

/-- The declaration of an attribute with a name. -/
def attributeDeclaration? (substitution : Substitution) (node : Element) : Option Declaration :=
  (node.attribute? "name").map (fun name =>
    ⟨name, substitution.apply ((node.attribute? "type").getD "xs:string"), documentation? node⟩)

/-- The declaration of an element of a sequence, by its own name or by reference.  The text of a
reference is kept as it is. -/
def elementDeclaration? (substitution : Substitution) (element : Element) : Option Declaration :=
  match element.attribute? "name" with
  | some name =>
    some ⟨name, substitution.apply ((element.attribute? "type").getD "xs:anyType"),
      documentation? element⟩
  | none => (element.attribute? "ref").map (fun reference =>
      ⟨Naming.localPart reference, reference, documentation? element⟩)

/-- The elements of the first sequence of a node. -/
def sequenceElements (node : Element) : List Element :=
  match node.child? "sequence" with
  | some sequence => sequence.childrenNamed "element"
  | none => []

/-- The declarations of a node: its attributes, then the elements of its first sequence. -/
def ownDeclarations (substitution : Substitution) (node : Element) : List Declaration :=
  (node.childrenNamed "attribute").filterMap (attributeDeclaration? substitution) ++
    (sequenceElements node).filterMap (elementDeclaration? substitution)

/-- The extension by which a complex type derives from another one. -/
def extension? (complex : Element) : Option Element :=
  (complex.child? "complexContent").bind (·.child? "extension")

/-- The declarations of a complex type: its own, then those of its extension. -/
def declarations (substitution : Substitution) (complex : Element) : List Declaration :=
  ownDeclarations substitution complex ++
    ((extension? complex).map (ownDeclarations substitution)).getD []

/-- Add a declaration to a type.  A member declared again keeps its place, and its documentation
unless the new declaration has one. -/
def declare (type : TypeDef) (declaration : Declaration) : TypeDef :=
  { type with
    members := type.members.insert declaration.name (.unresolved declaration.type)
    docs :=
      match declaration.doc with
      | some doc => type.docs.insert declaration.name doc
      | none => type.docs }

/-- The base of a complex type, if it extends another one. -/
def complexBase? (substitution : Substitution) (complex : Element) : Option BaseType :=
  ((extension? complex).bind (·.attribute? "base")).map
    (fun base => .named (.unresolved (substitution.apply base)))

/-- The type of a complex type. -/
def complexType (blank : TypeDef) (substitution : Substitution) (complex : Element) : TypeDef :=
  (declarations substitution complex).foldl declare
    { blank with base := complexBase? substitution complex }

/-! ## The whole schema -/

/-- The name of a simple type.  Where a schema has no complex types it is about its first element,
so a simple type takes the name of that element. -/
def simpleName (hasComplexTypes : Bool) (rootName : String) (simple : Element) : String :=
  if hasComplexTypes then (simple.attribute? "name").getD rootName else rootName

/-- The types of a schema, given the name of its document and the marker of the home namespace:
simple types in order, then complex types.  A schema without a top-level element has none. -/
def types (schema : Element) (source home : String) : List TypeDef :=
  match schema.child? "element" with
  | none => []
  | some rootElement =>
    let start := namePrefix schema source home
    let blank (name : String) := TypeDef.named (start ++ name) (targetNamespace schema) start
    let rootName := (rootElement.attribute? "name").getD source
    let complexTypes := complexTypesOf schema
    let substitution := Substitution.ofSchema schema rootElement
    (schema.childrenNamed "simpleType").map (fun simple =>
        simpleType (blank (simpleName (!complexTypes.isEmpty) rootName simple))
          (literals simple)) ++
      complexTypes.map (fun (name, complex) =>
        complexType (blank ((substitution.find? name).getD name)) substitution complex)

end RestModel.Schema

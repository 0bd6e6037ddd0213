import RestModel.Proofs.Schema.Substitution

/-!
# The members of a complex type

The nodes of a complex type that declare members form one list, in the order in which they are read:
attributes and sequence elements of the type, then those of its extension.  Of several nodes for one
member the last is kept, and the member refers to what the type written there stands for.
-/

namespace RestModel.Schema

open Xml

/-- A node that may declare a member. -/
inductive MemberNode where
  | ofAttribute (node : Element)
  | ofElement (node : Element)

namespace MemberNode

/-- The declaration of the member. -/
def declaration? (substitution : Substitution) : MemberNode → Option Declaration
  | ofAttribute node => attributeDeclaration? substitution node
  | ofElement node => elementDeclaration? substitution node

/-- The name of the member: that of the node, or the local part of what an element refers to. -/
def memberName? : MemberNode → Option String
  | ofAttribute node => node.attribute? "name"
  | ofElement node => node.attribute? "name" <|> (node.attribute? "ref").map Naming.localPart

/-- The type that a node with a name gives to its member, as it is written. -/
def writtenType? : MemberNode → Option String
  | ofAttribute node => (node.attribute? "name").bind (fun _ => node.attribute? "type")
  | ofElement node => (node.attribute? "name").bind (fun _ => node.attribute? "type")

/-- The text that a node stores for its member, given what is substituted for a declared type.
Without a type, an attribute is a string and an element can be anything; a reference to an element
is stored as it is. -/
def storedText? (substitute : String → String) : MemberNode → Option String
  | ofAttribute node => (node.attribute? "name").map (fun _ =>
      substitute ((node.attribute? "type").getD "xs:string"))
  | ofElement node => ((node.attribute? "name").map (fun _ =>
      substitute ((node.attribute? "type").getD "xs:anyType"))).or (node.attribute? "ref")

end MemberNode

/-- The nodes of an element that declare members: its attributes, then the elements of its first
sequence. -/
def ownNodes (node : Element) : List MemberNode :=
  (node.childrenNamed "attribute").map .ofAttribute ++ (sequenceElements node).map .ofElement

/-- The nodes that declare members of a complex type: its own, then those of its extension. -/
def memberNodes (complex : Element) : List MemberNode :=
  ownNodes complex ++ ((extension? complex).map ownNodes).getD []

/-- The node whose declaration of a member is kept: the last one for that member. -/
def keptNode? (complex : Element) (member : String) : Option MemberNode :=
  (memberNodes complex).reverse.find? (·.memberName? == some member)

variable {substitution : Substitution}

theorem name_declaration? (node : MemberNode) :
    (node.declaration? substitution).map Declaration.name = node.memberName? := by
  cases node with
  | ofAttribute node =>
      rw [MemberNode.declaration?, attributeDeclaration?, Option.map_map]
      exact Option.map_id'
  | ofElement node =>
      rw [MemberNode.declaration?, elementDeclaration?, MemberNode.memberName?]
      cases node.attribute? "name" with
      | some name => rfl
      | none => cases node.attribute? "ref" <;> rfl

theorem type_declaration? (node : MemberNode) :
    (node.declaration? substitution).map Declaration.type =
      node.storedText? substitution.apply := by
  cases node with
  | ofAttribute node =>
      rw [MemberNode.declaration?, attributeDeclaration?, Option.map_map]
      rfl
  | ofElement node =>
      rw [MemberNode.declaration?, elementDeclaration?, MemberNode.storedText?]
      cases node.attribute? "name" with
      | some name => rfl
      | none => cases node.attribute? "ref" <;> rfl

theorem storedText?_of_writtenType? {substitute : String → String} {node : MemberNode}
    {text : String} (htext : node.writtenType? = some text) :
    node.storedText? substitute = some (substitute text) := by
  cases node with
  | ofAttribute node =>
      obtain ⟨name, hname, htype⟩ := Option.bind_eq_some_iff.mp htext
      rw [MemberNode.storedText?, hname, htype]
      rfl
  | ofElement node =>
      obtain ⟨name, hname, htype⟩ := Option.bind_eq_some_iff.mp htext
      rw [MemberNode.storedText?, hname, htype]
      rfl

theorem ownDeclarations_eq_filterMap (node : Element) :
    ownDeclarations substitution node =
      (ownNodes node).filterMap (MemberNode.declaration? substitution) := by
  rw [ownDeclarations, ownNodes, List.filterMap_append, List.filterMap_map, List.filterMap_map]
  rfl

theorem declarations_eq_filterMap (complex : Element) :
    declarations substitution complex =
      (memberNodes complex).filterMap (MemberNode.declaration? substitution) := by
  rw [declarations, memberNodes, List.filterMap_append, ownDeclarations_eq_filterMap]
  cases extension? complex with
  | none => rfl
  | some extension =>
      rw [Option.map_some, Option.map_some, Option.getD_some, Option.getD_some,
        ownDeclarations_eq_filterMap]

/-- Declarations change the members and their documentation only. -/
theorem foldl_declare_eq (type : TypeDef) (declarations : List Declaration) :
    ∃ members docs, declarations.foldl declare type =
      { type with members := members, docs := docs } := by
  induction declarations generalizing type with
  | nil =>
      refine ⟨type.members, type.docs, ?_⟩
      cases type
      rfl
  | cons declaration rest ih =>
      obtain ⟨members, docs, hrest⟩ := ih (declare type declaration)
      exact ⟨members, docs, hrest⟩

section ComplexType

variable (blank : TypeDef) (substitution : Substitution) (complex : Element)

theorem complexType_eq : ∃ members docs, complexType blank substitution complex =
    { blank with
      base := complexBase? substitution complex
      members := members
      docs := docs } :=
  foldl_declare_eq _ _

theorem name_complexType : (complexType blank substitution complex).name = blank.name := by
  obtain ⟨members, docs, hcomplex⟩ := complexType_eq blank substitution complex
  rw [hcomplex]

theorem namespaceUri_complexType :
    (complexType blank substitution complex).namespaceUri = blank.namespaceUri := by
  obtain ⟨members, docs, hcomplex⟩ := complexType_eq blank substitution complex
  rw [hcomplex]

theorem namePrefix_complexType :
    (complexType blank substitution complex).namePrefix = blank.namePrefix := by
  obtain ⟨members, docs, hcomplex⟩ := complexType_eq blank substitution complex
  rw [hcomplex]

theorem isEnumeration_complexType :
    (complexType blank substitution complex).isEnumeration = blank.isEnumeration := by
  obtain ⟨members, docs, hcomplex⟩ := complexType_eq blank substitution complex
  rw [hcomplex]

theorem base_complexType :
    (complexType blank substitution complex).base = complexBase? substitution complex := by
  obtain ⟨members, docs, hcomplex⟩ := complexType_eq blank substitution complex
  rw [hcomplex]

end ComplexType

/-- The last declaration of a member decides on its type. -/
theorem get?_members_foldl_declare (type : TypeDef) (declarations : List Declaration)
    (member : String) :
    (declarations.foldl declare type).members.get? member =
      (((declarations.reverse.find? (·.name == member)).map (fun declaration =>
        .unresolved declaration.type)) <|> type.members.get? member) := by
  induction declarations generalizing type with
  | nil => rfl
  | cons declaration rest ih =>
      rw [List.foldl_cons, ih, List.reverse_cons, List.find?_append, declare,
        OrderedMap.get?_insert]
      cases rest.reverse.find? (·.name == member) with
      | some last => rfl
      | none =>
          by_cases hname : member = declaration.name
          · simp [hname]
          · simp [hname, Ne.symm hname]

/-- The last declaration of a member is that of its kept node. -/
theorem find?_reverse_declarations (complex : Element) (member : String) :
    (declarations substitution complex).reverse.find? (·.name == member) =
      (keptNode? complex member).bind (MemberNode.declaration? substitution) := by
  have hnames : (fun node : MemberNode => (node.declaration? substitution).any
      (·.name == member)) = (fun node => node.memberName? == some member) := by
    funext node
    rw [← name_declaration? node]
    cases node.declaration? substitution with
    | none => rfl
    | some declaration => simp
  rw [declarations_eq_filterMap, ← List.filterMap_reverse, List.find?_filterMap, hnames, keptNode?]

/-- A member has the text that its kept node stores. -/
theorem get?_members_eq (blank : TypeDef) (complex : Element) (member : String) :
    (complexType blank substitution complex).members.get? member =
      (((keptNode? complex member).bind (·.storedText? substitution.apply)).map .unresolved).or
        (blank.members.get? member) := by
  rw [complexType, get?_members_foldl_declare, find?_reverse_declarations]
  cases keptNode? complex member with
  | none => rfl
  | some node =>
      rw [Option.bind_some, Option.bind_some, ← type_declaration?]
      cases node.declaration? substitution <;> rfl

theorem get?_members_complexType {blank : TypeDef} {complex : Element} {member text : String}
    {node : MemberNode} (hkept : keptNode? complex member = some node)
    (htext : node.writtenType? = some text) :
    (complexType blank substitution complex).members.get? member =
      some (.unresolved (substitution.apply text)) := by
  rw [get?_members_eq, hkept, Option.bind_some, storedText?_of_writtenType? htext]
  rfl

end RestModel.Schema

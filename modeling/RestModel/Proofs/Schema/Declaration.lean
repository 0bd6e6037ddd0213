import Mathlib.Data.List.Induction
import RestModel.Proofs.Schema.Emission

/-!
# The declared members of a complex type

The members of a complex type are those that its nodes declare, in the order in which their names
come up first.  The last node for a member decides on its type: an element that refers to another
one stores the reference as it is written, and any other node stores what the schema substitutes for
the type it is declared with.
-/

namespace RestModel.Schema

open Xml

/-- What a schema stores for a declared type: a built-in type as it is, and otherwise what it
substitutes for the type, if anything. -/
def storedType (schema : Element) (declared : String) : String :=
  if Naming.isPrimitive declared then declared else (standsFor? schema declared).getD declared

/-- The names that the nodes of a complex type declare, in order and with repetitions. -/
def declaredMembers (complex : Element) : List String :=
  (memberNodes complex).filterMap MemberNode.memberName?

/-- A type has the members that the nodes of a complex type declare. -/
structure HasDeclaredMembers (schema complex : Element) (type : TypeDef) : Prop where
  names : type.members.keys = (declaredMembers complex).eraseDups
  texts : ∀ member, type.members.get? member =
    ((keptNode? complex member).bind (·.storedText? (storedType schema))).map .unresolved
  documented : type.docs.keys ⊆ type.members.keys

variable {schema rootElement complex : Element}

theorem apply_ofSchema (hroot : schema.child? "element" = some rootElement) :
    (Substitution.ofSchema schema rootElement).apply = storedType schema := by
  funext declared
  rw [Substitution.apply, Substitution.find?_ofSchema hroot, storedType]

/-! ## Members in order -/

section Declarations

variable {type : TypeDef}

/-- A name that is declared again adds no member. -/
theorem keys_members_foldl_declare (hblank : type.members = .empty)
    (declarations : List Declaration) :
    (declarations.foldl declare type).members.keys =
      (declarations.map Declaration.name).eraseDups := by
  induction declarations using List.reverseRecOn with
  | nil =>
      rw [List.foldl_nil, hblank]
      rfl
  | append_singleton earlier last ih =>
      rw [List.foldl_concat, declare, OrderedMap.keys_insert, ih, List.map_append,
        List.map_singleton, eraseDups_concat]

theorem keys_docs_declare_subset (declaration : Declaration)
    (hdocumented : type.docs.keys ⊆ type.members.keys) :
    (declare type declaration).docs.keys ⊆ (declare type declaration).members.keys := by
  intro member hmember
  rw [declare, OrderedMap.mem_keys_insert]
  rw [declare] at hmember
  cases hdoc : declaration.doc with
  | none =>
      rw [hdoc] at hmember
      exact Or.inr (hdocumented hmember)
  | some doc =>
      rw [hdoc, OrderedMap.mem_keys_insert] at hmember
      exact hmember.imp_right fun hold => hdocumented hold

theorem keys_docs_foldl_declare_subset (declarations : List Declaration)
    (hdocumented : type.docs.keys ⊆ type.members.keys) :
    (declarations.foldl declare type).docs.keys ⊆
      (declarations.foldl declare type).members.keys := by
  induction declarations generalizing type with
  | nil => exact hdocumented
  | cons declaration rest ih => exact ih (keys_docs_declare_subset declaration hdocumented)

end Declarations

theorem hasDeclaredMembers_complexType {blank : TypeDef}
    (hroot : schema.child? "element" = some rootElement) (hmembers : blank.members = .empty)
    (hdocs : blank.docs = .empty) :
    HasDeclaredMembers schema complex
      (complexType blank (Substitution.ofSchema schema rootElement) complex) := by
  constructor
  · rw [complexType, keys_members_foldl_declare (by exact hmembers), declarations_eq_filterMap,
      List.map_filterMap, declaredMembers]
    simp only [name_declaration?]
  · intro member
    rw [get?_members_eq, hmembers, OrderedMap.get?_empty, Option.or_none, apply_ofSchema hroot]
  · apply keys_docs_foldl_declare_subset
    rw [hdocs]
    exact List.nil_subset _

/-- The types of the complex types of a schema have the members that these declare. -/
theorem types_have_declared_members {schema : Element} (source home : String)
    (hroot : (schema.child? "element").isSome) :
    List.Forall₂ (fun entry type => HasDeclaredMembers schema entry.2 type) (complexTypesOf schema)
      ((types schema source home).drop (schema.childrenNamed "simpleType").length) := by
  obtain ⟨rootElement, hroot⟩ := Option.isSome_iff_exists.mp hroot
  rw [drop_types hroot, List.forall₂_map_right_iff, List.forall₂_same]
  intro entry _
  exact hasDeclaredMembers_complexType hroot rfl rfl

/-- The extension of a user declares the state of the user once more. -/
def userType : Element :=
  ⟨"xs:complexType", [("name", "user-type")],
    [⟨"xs:sequence", [],
      [⟨"xs:element", [("name", "state"), ("type", "tns:state-type")], [], ""⟩,
       ⟨"xs:element", [("ref", "plcm-role:plcm-role")], [], ""⟩], ""⟩,
     ⟨"xs:attribute", [("name", "version")], [], ""⟩,
     ⟨"xs:complexContent", [],
      [⟨"xs:extension", [("base", "plcm-base")],
        [⟨"xs:attribute", [("name", "level"), ("type", "tns:state-type")], [], ""⟩,
         ⟨"xs:sequence", [], [⟨"xs:element", [("name", "state")], [], ""⟩], ""⟩], ""⟩], ""⟩], ""⟩

/-- A simple type that is written out as `state-type {on,off}`. -/
def stateType : Element :=
  ⟨"xs:simpleType", [("name", "state-type")],
    [⟨"xs:restriction", [("base", "xs:string")],
      [⟨"xs:enumeration", [("value", "on")], [], ""⟩,
       ⟨"xs:enumeration", [("value", "off")], [], ""⟩], ""⟩], ""⟩

/-- A schema that declares users. -/
def userSchema : Element :=
  ⟨"xs:schema", [("targetNamespace", "urn:polycom:user")],
    [⟨"xs:element", [("name", "plcm-user"), ("type", "tns:user-type")], [], ""⟩, userType,
      stateType], ""⟩

/-- The state keeps its place, and gets the type of its second declaration. -/
theorem hasDeclaredMembers_userSchema : ∃ type,
    (types userSchema "user" "polycom").drop 1 = [type] ∧
    type.members.keys = ["version", "state", "plcm-role", "level"] ∧
    type.members.get? "state" = some (.unresolved "xs:anyType") ∧
    type.members.get? "plcm-role" = some (.unresolved "plcm-role:plcm-role") ∧
    type.members.get? "level" = some (.unresolved "state-type \x7bon,off\x7d") ∧
    type.docs.keys ⊆ type.members.keys := by
  have htypes : List.Forall₂ (fun entry type => HasDeclaredMembers userSchema entry.2 type)
      [("user-type", userType)] ((types userSchema "user" "polycom").drop 1) :=
    types_have_declared_members "user" "polycom" (by decide +kernel)
  obtain ⟨type, rest, htype, hrest, hdrop⟩ := List.forall₂_cons_left_iff.mp htypes
  rw [List.forall₂_nil_left_iff] at hrest
  refine ⟨type, hrest ▸ hdrop, ?_, ?_, ?_, ?_, htype.documented⟩
  · rw [htype.names]
    decide +kernel
  · rw [htype.texts]
    decide +kernel
  · rw [htype.texts]
    decide +kernel
  · rw [htype.texts]
    decide +kernel

end RestModel.Schema

import RestModel.Proofs.Schema.Declaration

/-!
# The documentation of members

A member that is declared several times has the type of its last declaration.  It has the
documentation of its last documented declaration, which can be an earlier one.  The two agree exactly
where no undocumented declaration comes last for a member that is documented elsewhere.
-/

namespace RestModel.Schema

open Xml

namespace MemberNode

/-- The documentation that the node gives to its member. -/
def doc? : MemberNode → Option String
  | ofAttribute node => documentation? node
  | ofElement node => documentation? node

/-- The documentation of the node, if it declares the member. -/
def docOf? (member : String) (node : MemberNode) : Option String :=
  if node.memberName? = some member then node.doc? else none

end MemberNode

/-- The documentation of the last documented node for a member. -/
def lastDoc? (complex : Element) (member : String) : Option String :=
  (memberNodes complex).reverse.findSome? (MemberNode.docOf? member)

/-- The members of a type have the types and the documentation of the nodes that are kept for them. -/
structure DescribesKeptNodes (schema complex : Element) (type : TypeDef) : Prop where
  texts : ∀ member, type.members.get? member =
    ((keptNode? complex member).bind (·.storedText? (storedType schema))).map .unresolved
  docs : ∀ member, type.docs.get? member = (keptNode? complex member).bind MemberNode.doc?

/-- A member with a documented node is documented by the node that is kept for it. -/
def KeepsDocumentation (complex : Element) : Prop :=
  ∀ node ∈ memberNodes complex, ∀ member ∈ node.memberName?, node.doc?.isSome →
    ((keptNode? complex member).bind MemberNode.doc?).isSome

instance : DecidablePred KeepsDocumentation := fun complex =>
  inferInstanceAs (Decidable (∀ node ∈ memberNodes complex, ∀ member ∈ node.memberName?, _))

/-! ## The last documented declaration -/

/-- The documentation of a declaration, if it is one of the member. -/
def Declaration.docOf? (member : String) (declaration : Declaration) : Option String :=
  if declaration.name = member then declaration.doc else none

theorem get?_docs_declare (type : TypeDef) (declaration : Declaration) (member : String) :
    (declare type declaration).docs.get? member =
      (declaration.docOf? member).or (type.docs.get? member) := by
  rw [declare, Declaration.docOf?]
  cases hdoc : declaration.doc with
  | none => simp
  | some doc =>
      rw [OrderedMap.get?_insert]
      by_cases hname : declaration.name = member
      · rw [if_pos hname.symm, if_pos hname, Option.some_or]
      · rw [if_neg (Ne.symm hname), if_neg hname, Option.none_or]

/-- A declaration without documentation leaves that of an earlier one in its place. -/
theorem get?_docs_foldl_declare (type : TypeDef) (declarations : List Declaration)
    (member : String) : (declarations.foldl declare type).docs.get? member =
      (declarations.reverse.findSome? (Declaration.docOf? member)).or
        (type.docs.get? member) := by
  induction declarations generalizing type with
  | nil => rfl
  | cons declaration rest ih =>
      rw [List.foldl_cons, ih, get?_docs_declare, List.reverse_cons, List.findSome?_append,
        Option.or_assoc]
      simp

variable {substitution : Substitution} {schema complex : Element} {type : TypeDef}

theorem docOf?_declaration? (member : String) (node : MemberNode) :
    (node.declaration? substitution).bind (Declaration.docOf? member) = node.docOf? member := by
  rw [MemberNode.docOf?]
  cases node with
  | ofAttribute node =>
      rw [MemberNode.declaration?, attributeDeclaration?, MemberNode.memberName?]
      cases node.attribute? "name" with
      | none => rfl
      | some name => simp [Declaration.docOf?, MemberNode.doc?]
  | ofElement node =>
      rw [MemberNode.declaration?, elementDeclaration?, MemberNode.memberName?]
      cases node.attribute? "name" with
      | some name => simp [Declaration.docOf?, MemberNode.doc?]
      | none =>
          cases node.attribute? "ref" with
          | none => rfl
          | some reference => simp [Declaration.docOf?, MemberNode.doc?]

theorem get?_docs_complexType {blank : TypeDef} (hdocs : blank.docs = .empty) (member : String) :
    (complexType blank substitution complex).docs.get? member = lastDoc? complex member := by
  have hsearch : (declarations substitution complex).reverse.findSome?
      (Declaration.docOf? member) = lastDoc? complex member := by
    rw [declarations_eq_filterMap, ← List.filterMap_reverse, ← List.head?_filterMap,
      List.filterMap_filterMap, List.head?_filterMap, lastDoc?]
    congr
    funext node
    exact docOf?_declaration? member node
  rw [complexType, get?_docs_foldl_declare, hsearch, hdocs, OrderedMap.get?_empty, Option.or_none]

/-! ## Kept and documented declarations -/

/-- The search for the last documentation meets the kept node first. -/
theorem lastDoc?_of_keptNode? {member doc : String}
    (hkept : (keptNode? complex member).bind MemberNode.doc? = some doc) :
    lastDoc? complex member = some doc := by
  obtain ⟨node, hnode, hdoc⟩ := Option.bind_eq_some_iff.mp hkept
  obtain ⟨hmember, later, earlier, hnodes, hlater⟩ := List.find?_eq_some_iff_append.mp hnode
  have hskipped : later.findSome? (MemberNode.docOf? member) = none := by
    rw [List.findSome?_eq_none_iff]
    intro other hother
    have hdiffers := hlater other hother
    rw [MemberNode.docOf?, if_neg (by simpa using hdiffers)]
  have hfound : node.docOf? member = some doc := by
    rw [MemberNode.docOf?, if_pos (by simpa using hmember), hdoc]
  calc
    lastDoc? complex member
        = (later.findSome? (MemberNode.docOf? member)).or
            ((node :: earlier).findSome? (MemberNode.docOf? member)) := by
      rw [lastDoc?, hnodes, List.findSome?_append]
    _ = (node :: earlier).findSome? (MemberNode.docOf? member) := by rw [hskipped, Option.none_or]
    _ = some doc := by rw [List.findSome?_cons, hfound]

theorem keepsDocumentation_iff : KeepsDocumentation complex ↔
    ∀ member, (lastDoc? complex member).isSome →
      ((keptNode? complex member).bind MemberNode.doc?).isSome := by
  constructor
  · intro hkeeps member hlast
    obtain ⟨node, hnode, hdoc⟩ := List.findSome?_isSome_iff.mp hlast
    rw [MemberNode.docOf?] at hdoc
    split at hdoc
    · next hmember => exact hkeeps node (List.mem_reverse.mp hnode) member hmember hdoc
    · exact absurd hdoc Bool.false_ne_true
  · intro hkeeps node hnode member hmember hdoc
    apply hkeeps member
    rw [lastDoc?, List.findSome?_isSome_iff]
    refine ⟨node, List.mem_reverse.mpr hnode, ?_⟩
    rw [MemberNode.docOf?, if_pos (Option.mem_def.mp hmember)]
    exact hdoc

theorem docs_of_keptNodes_iff (hlast : ∀ member, type.docs.get? member = lastDoc? complex member) :
    (∀ member, type.docs.get? member = (keptNode? complex member).bind MemberNode.doc?) ↔
      KeepsDocumentation complex := by
  rw [keepsDocumentation_iff]
  refine forall_congr' fun member => ?_
  rw [hlast]
  constructor
  · intro hsame hdoc
    rwa [← hsame]
  · intro hkeeps
    cases hkept : (keptNode? complex member).bind MemberNode.doc? with
    | some doc => exact lastDoc?_of_keptNode? hkept
    | none =>
        rw [hkept] at hkeeps
        exact Option.not_isSome_iff_eq_none.mp fun hdoc => absurd (hkeeps hdoc) Bool.false_ne_true

/-- Every member of a type that a complex type is registered as has the type that its kept node
writes and the documentation of its last documented node.  The documentation is that of the kept
nodes exactly if each member with a documented node has a documented kept node. -/
theorem describesKeptNodes_iff {source home : String} {emitted : EmittedType}
    (hmem : emitted ∈ emittedTypes schema source home) :
    (∀ member, emitted.type.docs.get? member = lastDoc? emitted.complex member) ∧
    (DescribesKeptNodes schema emitted.complex emitted.type ↔
      KeepsDocumentation emitted.complex) := by
  obtain ⟨rootElement, hroot⟩ := exists_child?_of_mem_emittedTypes hmem
  obtain ⟨entry, -, rfl⟩ := exists_entry_of_mem_emittedTypes hroot hmem
  have hlast : ∀ member, (emittedType schema rootElement source home entry).docs.get? member =
      lastDoc? entry.2 member := get?_docs_complexType rfl
  refine ⟨hlast, ?_⟩
  rw [← docs_of_keptNodes_iff hlast]
  constructor
  · exact DescribesKeptNodes.docs
  · intro hdocs
    exact ⟨(hasDeclaredMembers_complexType hroot rfl rfl).texts, hdocs⟩

/-- A node that declares a member, perhaps with documentation. -/
def memberNode (kind name type : String) (doc : Option String) : Element :=
  ⟨kind, [("name", name), ("type", type)], doc.toList.map (fun text =>
    ⟨"xs:annotation", [], [⟨"xs:documentation", [], [], text⟩], ""⟩), ""⟩

/-- A schema with badges, which have a documented attribute and an element of the same name. -/
def badgeSchema (doc : Option String) : Element :=
  ⟨"xs:schema", [("targetNamespace", "urn:polycom:badge")],
    [⟨"xs:element", [("name", "plcm-badge"), ("type", "tns:badge-type")], [], ""⟩,
     ⟨"xs:complexType", [("name", "badge-type")],
      [⟨"xs:sequence", [], [memberNode "xs:element" "id" "xs:int" doc], ""⟩,
       memberNode "xs:attribute" "id" "xs:string" (some "Name on the badge.")], ""⟩], ""⟩

/-- The element is documented itself. -/
theorem describesKeptNodes_badgeSchema : ∃ emitted,
    emittedTypes (badgeSchema (some "Number of the badge.")) "badge" "polycom" = [emitted] ∧
    emitted.type.members.get? "id" = some (.unresolved "xs:int") ∧
    emitted.type.docs.get? "id" = some "Number of the badge." ∧
    KeepsDocumentation emitted.complex ∧
    DescribesKeptNodes (badgeSchema (some "Number of the badge.")) emitted.complex
      emitted.type := by
  refine ⟨_, rfl, by decide +kernel, by decide +kernel, by decide +kernel, ?_⟩
  apply (describesKeptNodes_iff (List.mem_singleton_self _)).2.mpr
  decide +kernel

/-- The element is not documented, and gets the documentation of the attribute. -/
theorem not_describesKeptNodes_badgeSchema :
    ∃ emitted ∈ emittedTypes (badgeSchema none) "badge" "polycom",
      emitted.type.members.get? "id" = some (.unresolved "xs:int") ∧
      emitted.type.docs.get? "id" = some "Name on the badge." ∧
      ¬DescribesKeptNodes (badgeSchema none) emitted.complex emitted.type := by
  refine ⟨_, List.mem_singleton_self _, by decide +kernel, by decide +kernel, ?_⟩
  intro hdescribes
  have hdoc := hdescribes.docs "id"
  revert hdoc
  decide +kernel

end RestModel.Schema

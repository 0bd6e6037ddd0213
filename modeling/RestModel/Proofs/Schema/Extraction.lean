import RestModel.Proofs.OrderedMap
import RestModel.Registry.Resolution
import RestModel.Schema.Extraction

/-!
# Types as schemas declare them

A type that comes from a schema has no resolved reference and no collection yet.  An enumeration has
at least one member and extends nothing.
-/

namespace RestModel

/-- The references of a type: those of its members, then that of its base. -/
def TypeDef.references (type : TypeDef) : List TypeRef :=
  type.members.values ++ type.baseRef?.toList

/-- What holds of a type before anything is looked up or folded. -/
structure TypeDef.IsDeclared (type : TypeDef) : Prop where
  unresolved : ∀ ref ∈ type.references, ref.id? = none
  unfolded : type.collection = none
  enumeration : type.isEnumeration = true → type.base = none ∧ type.members.isEmpty = false

namespace Schema

variable {blank : TypeDef}

/-! ## Simple types -/

theorem id?_of_mem_insertLiteral {members : OrderedMap String TypeRef} {literal : String}
    (hmembers : ∀ ref ∈ members.values, ref.id? = none) :
    ∀ ref ∈ (insertLiteral members literal).values, ref.id? = none := by
  intro ref hmem
  rcases OrderedMap.mem_values_insert hmem with rfl | hold
  · rfl
  · exact hmembers ref hold

theorem id?_of_mem_foldl_insertLiteral {members : OrderedMap String TypeRef}
    {literals : List String} (hmembers : ∀ ref ∈ members.values, ref.id? = none) :
    ∀ ref ∈ (literals.foldl insertLiteral members).values, ref.id? = none := by
  induction literals generalizing members with
  | nil => exact hmembers
  | cons literal rest ih => exact ih (id?_of_mem_insertLiteral hmembers)

theorem isEmpty_foldl_insertLiteral {members : OrderedMap String TypeRef} {literals : List String}
    (hsome : members.isEmpty = false ∨ literals ≠ []) :
    (literals.foldl insertLiteral members).isEmpty = false := by
  induction literals generalizing members with
  | nil => simpa using hsome
  | cons literal rest ih => exact ih (Or.inl (OrderedMap.isEmpty_insert members _ _))

theorem isDeclared_simpleType {literals : List String} (hmembers : blank.members = .empty)
    (hbase : blank.base = none) (hfree : blank.collection = none)
    (hrecord : blank.isEnumeration = false) : (simpleType blank literals).IsDeclared := by
  rw [simpleType]
  split
  · constructor
    · intro ref hmem
      simp [TypeDef.references, TypeDef.baseRef?, hmembers] at hmem
    · exact hfree
    · simp [hrecord]
  · next hliterals =>
    constructor
    · intro ref hmem
      simp only [TypeDef.references, TypeDef.baseRef?, hbase, Option.toList_none,
        List.append_nil] at hmem
      exact id?_of_mem_foldl_insertLiteral (by simp) ref hmem
    · exact hfree
    · intro _
      refine ⟨hbase, isEmpty_foldl_insertLiteral (Or.inr ?_)⟩
      simpa using hliterals

/-! ## Complex types -/

theorem isDeclared_declare {type : TypeDef} {declaration : Declaration} (htype : type.IsDeclared) :
    (declare type declaration).IsDeclared := by
  constructor
  · intro ref hmem
    rcases List.mem_append.mp hmem with hmember | hbase
    · rcases OrderedMap.mem_values_insert hmember with rfl | hold
      · rfl
      · exact htype.unresolved ref (List.mem_append_left _ hold)
    · exact htype.unresolved ref (List.mem_append_right _ hbase)
  · exact htype.unfolded
  · intro henumeration
    exact ⟨(htype.enumeration henumeration).1, OrderedMap.isEmpty_insert _ _ _⟩

theorem isDeclared_foldl_declare {type : TypeDef} {declarations : List Declaration}
    (htype : type.IsDeclared) : (declarations.foldl declare type).IsDeclared := by
  induction declarations generalizing type with
  | nil => exact htype
  | cons declaration rest ih => exact ih (isDeclared_declare htype)

theorem id?_of_complexBase? {substitution : Substitution} {complex : Xml.Element} {target : TypeRef}
    (hbase : complexBase? substitution complex = some (.named target)) : target.id? = none := by
  rw [complexBase?, Option.map_eq_some_iff] at hbase
  obtain ⟨base, -, hnamed⟩ := hbase
  injection hnamed with htarget
  rw [← htarget]
  rfl

theorem isDeclared_complexType {substitution : Substitution} {complex : Xml.Element}
    (hmembers : blank.members = .empty) (hfree : blank.collection = none)
    (hrecord : blank.isEnumeration = false) :
    (complexType blank substitution complex).IsDeclared := by
  apply isDeclared_foldl_declare
  constructor
  · intro ref hmem
    simp only [TypeDef.references, TypeDef.baseRef?, hmembers, OrderedMap.values_empty,
      List.nil_append] at hmem
    split at hmem
    · next target hbase =>
      rw [Option.toList_some, List.mem_singleton] at hmem
      rw [hmem]
      exact id?_of_complexBase? hbase
    · exact absurd hmem List.not_mem_nil
  · exact hfree
  · simp [hrecord]

/-! ## The whole schema -/

theorem isDeclared_of_mem_types {schema : Xml.Element} {source home : String} {type : TypeDef}
    (hmem : type ∈ types schema source home) : type.IsDeclared := by
  rw [types] at hmem
  split at hmem
  · exact absurd hmem List.not_mem_nil
  · rcases List.mem_append.mp hmem with hsimple | hcomplex
    · obtain ⟨simple, -, rfl⟩ := List.mem_map.mp hsimple
      exact isDeclared_simpleType rfl rfl rfl rfl
    · obtain ⟨⟨name, complex⟩, -, rfl⟩ := List.mem_map.mp hcomplex
      exact isDeclared_complexType rfl rfl rfl

end Schema

end RestModel

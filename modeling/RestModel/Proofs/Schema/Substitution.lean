import RestModel.Proofs.Lists
import RestModel.Proofs.Naming
import RestModel.Proofs.OrderedMap
import RestModel.Schema.Extraction

/-!
# What a schema substitutes

What a schema substitutes for a name can be read off its top-level nodes: the name of the last
element that is declared with a type of this local part, or else the text of the last restriction of
this name.
-/

namespace RestModel.Schema

open Xml

/-- The local part of the type that an element is declared with, and the name of the element. -/
def givenName? (element : Element) : Option (String × String) := do
  let name ← element.attribute? "name"
  let type ← element.attribute? "type"
  some (Naming.localPart type, name)

/-- The name of a restriction, and the text that is written where it is used. -/
def writtenOut? (simple : Element) : Option (String × String) := do
  let name ← simple.attribute? "name"
  let restriction ← simple.child? "restriction"
  let base ← restriction.attribute? "base"
  some (name, Substitution.simpleText name base (facetValues restriction))

/-- The names that the top-level elements of a schema give to the types they are declared with. -/
def givenNames (schema : Element) : List (String × String) :=
  (schema.childrenNamed "element").filterMap givenName?

/-- The restrictions among the simple types of a schema, written out. -/
def writtenOut (schema : Element) : List (String × String) :=
  (schema.childrenNamed "simpleType").filterMap writtenOut?

/-- What a schema substitutes for a name: the name of the last top-level element declared with a
type of its local part, or else the text of the last restriction of that name. -/
def standsFor? (schema : Element) (name : String) : Option String :=
  ((givenNames schema).reverse.lookup (Naming.localPart name)).or
    ((writtenOut schema).reverse.lookup (Naming.localPart name))

theorem standsFor?_localPart (schema : Element) (name : String) :
    standsFor? schema (Naming.localPart name) = standsFor? schema name := by
  rw [standsFor?, Naming.localPart_localPart, standsFor?]

theorem mem_givenNames_iff {schema : Element} {name target : String} :
    (name, target) ∈ givenNames schema ↔ ∃ element ∈ schema.childrenNamed "element",
      element.attribute? "name" = some target ∧
        (element.attribute? "type").map Naming.localPart = some name := by
  rw [givenNames, List.mem_filterMap]
  refine exists_congr fun element => and_congr_right fun _ => ?_
  rw [givenName?]
  cases element.attribute? "name" with
  | none => simp
  | some other => cases element.attribute? "type" <;> simp [and_comm]

theorem exists_of_mem_writtenOut {schema : Element} {name text : String}
    (hmem : (name, text) ∈ writtenOut schema) :
    ∃ simple ∈ schema.childrenNamed "simpleType", simple.attribute? "name" = some name := by
  rw [writtenOut, List.mem_filterMap] at hmem
  obtain ⟨simple, hsimple, hwritten⟩ := hmem
  obtain ⟨other, hother, hrest⟩ := Option.bind_eq_some_iff.mp hwritten
  obtain ⟨restriction, -, hrest⟩ := Option.bind_eq_some_iff.mp hrest
  obtain ⟨base, -, hpair⟩ := Option.bind_eq_some_iff.mp hrest
  injection hpair with hpair
  injection hpair with hname
  exact ⟨simple, hsimple, hname ▸ hother⟩

theorem mem_childrenNamed_of_child? {parent child : Element} {name : String}
    (hchild : parent.child? name = some child) : child ∈ parent.childrenNamed name := by
  rw [Element.child?, ← List.head?_filter] at hchild
  exact List.mem_of_head? hchild

namespace Substitution

theorem foldl_addElement (substitution : Substitution) (elements : List Element) :
    elements.foldl addElement substitution = (elements.filterMap givenName?).foldl
      (fun map pair => map.insert pair.1 pair.2) substitution := by
  rw [List.foldl_filterMap]
  congr 1
  funext substitution element
  rw [addElement, givenName?]
  cases element.attribute? "name" <;> cases element.attribute? "type" <;> rfl

theorem foldl_addSimpleType (substitution : Substitution) (simples : List Element) :
    simples.foldl addSimpleType substitution = (simples.filterMap writtenOut?).foldl
      (fun map pair => map.insert pair.1 pair.2) substitution := by
  rw [List.foldl_filterMap]
  congr 1
  funext substitution simple
  rw [addSimpleType, writtenOut?]
  cases simple.attribute? "name" with
  | none => rfl
  | some name =>
      cases simple.child? "restriction" with
      | none => rfl
      | some restriction => cases hbase : restriction.attribute? "base" <;> simp [hbase]

variable {schema rootElement : Element}

/-- The first element is entered twice; the second time it is one of all elements. -/
theorem find?_ofSchema (hroot : schema.child? "element" = some rootElement) (name : String) :
    (ofSchema schema rootElement).find? name = standsFor? schema name := by
  have hfirst : addElement .empty rootElement = [rootElement].foldl addElement .empty := rfl
  rw [find?, ofSchema, foldl_addElement, foldl_addSimpleType, hfirst, foldl_addElement,
    OrderedMap.get?_foldl_insert, OrderedMap.get?_foldl_insert, OrderedMap.get?_foldl_insert,
    OrderedMap.get?_empty, Option.or_none, ← Option.or_assoc]
  change (standsFor? schema name).or _ = _
  cases hfound : standsFor? schema name with
  | some target => rfl
  | none =>
      have hgiven := (Option.or_eq_none_iff.mp hfound).1
      rw [List.lookup_eq_none_iff] at hgiven
      rw [Option.none_or, List.lookup_eq_none_iff]
      intro pair hpair
      rw [List.mem_reverse, List.mem_filterMap] at hpair
      obtain ⟨element, helement, hname⟩ := hpair
      rw [List.mem_singleton] at helement
      apply hgiven pair
      rw [List.mem_reverse, givenNames, List.mem_filterMap]
      exact ⟨element, helement ▸ mem_childrenNamed_of_child? hroot, hname⟩

end Substitution

end RestModel.Schema

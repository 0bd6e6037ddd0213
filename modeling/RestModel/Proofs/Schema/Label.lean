import RestModel.Proofs.Schema.Declaration
import RestModel.Proofs.Schema.Enumeration

/-!
# Types that are written out

Where a schema declares a member with the name of an enumeration, it stores the name with the values
of the enumeration.  The label of a member is the local part of what is stored.  A colon in a value
is therefore taken for the end of a namespace prefix, and the label is what stands behind the last
one.
-/

namespace RestModel.Schema

open Xml

/-- A name with the values it stands for, `name {first,second}`. -/
def writtenValues (name : String) (values : List String) : String :=
  name ++ " \x7b" ++ ",".intercalate values ++ "\x7d"

/-- A simple type of that name restricts a base to values. -/
structure Restricts (simple : Element) (name : String) (values : List String) : Prop where
  named : simple.attribute? "name" = some name
  restriction : ∃ restriction, simple.child? "restriction" = some restriction ∧
    (restriction.attribute? "base").isSome ∧ facetValues restriction = values

/-- A simple type that restricts strings to values. -/
def stringType (name : String) (values : List String) : Element :=
  ⟨"xs:simpleType", [("name", name)],
    [⟨"xs:restriction", [("base", "xs:string")], values.map facet, ""⟩], ""⟩

/-- A schema writes a name out with values: these are the values of the last of its simple types
with this name that restrict a base, and no top-level element is declared with a type of that
name. -/
structure WritesOut (schema : Element) (name : String) (values : List String) : Prop where
  declared : ∃ earlier simple later,
    schema.childrenNamed "simpleType" = earlier ++ simple :: later ∧
      Restricts simple name values ∧ ∀ other ∈ later, (writtenOut? other).map Prod.fst ≠ some name
  some : values ≠ []
  notGiven : name ∉ (givenNames schema).map Prod.fst

variable {schema : Element} {name text : String} {values : List String}

theorem writtenOut?_of_restricts {simple : Element} (hrestricts : Restricts simple name values)
    (hsome : values ≠ []) : writtenOut? simple = some (name, writtenValues name values) := by
  obtain ⟨restriction, hrestriction, hbase, rfl⟩ := hrestricts.restriction
  obtain ⟨base, hbase⟩ := Option.isSome_iff_exists.mp hbase
  rw [writtenOut?, hrestricts.named, hrestriction]
  simp [hbase, Substitution.simpleText, writtenValues, hsome]

theorem standsFor?_of_writesOut (hwrites : WritesOut schema (Naming.localPart text) values) :
    standsFor? schema text = some (writtenValues (Naming.localPart text) values) := by
  obtain ⟨earlier, simple, later, hsimple, hrestricts, hlater⟩ := hwrites.declared
  have hgiven : (givenNames schema).reverse.lookup (Naming.localPart text) = none := by
    rw [List.lookup_eq_none_iff]
    intro pair hpair
    rw [bne_iff_ne]
    intro hname
    exact hwrites.notGiven (hname ▸ List.mem_map_of_mem (List.mem_reverse.mp hpair))
  have hskipped : (later.filterMap writtenOut?).reverse.lookup (Naming.localPart text) = none := by
    rw [List.lookup_eq_none_iff]
    intro pair hpair
    obtain ⟨other, hother, hwritten⟩ := List.mem_filterMap.mp (List.mem_reverse.mp hpair)
    rw [bne_iff_ne]
    intro hname
    exact hlater other hother (by rw [hwritten, Option.map_some, hname])
  rw [standsFor?, hgiven, Option.none_or, writtenOut, hsimple, List.filterMap_append,
    List.filterMap_cons, writtenOut?_of_restricts hrestricts hwrites.some, List.reverse_append,
    List.reverse_cons, List.append_assoc, List.lookup_append, hskipped, Option.none_or]
  simp

/-- What a complex type stores for a member that is declared with a type. -/
theorem get?_members_of_mem_emittedTypes {source home member : String} {owner : EmittedType}
    {node : MemberNode} (howner : owner ∈ emittedTypes schema source home)
    (hkept : keptNode? owner.complex member = some node)
    (hwritten : node.writtenType? = some text) :
    owner.type.members.get? member = some (.unresolved (storedType schema text)) := by
  obtain ⟨rootElement, hroot⟩ := exists_child?_of_mem_emittedTypes howner
  obtain ⟨entry, -, rfl⟩ := exists_entry_of_mem_emittedTypes hroot howner
  rw [emittedType, get?_members_complexType hkept hwritten, apply_ofSchema hroot]

/-! ## Colons in values -/

theorem mem_toList_intercalate {char : Char} {separator : String}
    (hseparator : char ∉ separator.toList) (texts : List String) :
    char ∈ (separator.intercalate texts).toList ↔ ∃ text ∈ texts, char ∈ text.toList := by
  induction texts with
  | nil => simp
  | cons first rest ih =>
      cases rest with
      | nil => simp
      | cons second others =>
          rw [String.intercalate_cons_cons, String.toList_append, String.toList_append,
            List.mem_append, List.mem_append, ih]
          simp [hseparator]

theorem colon_mem_writtenValues_iff (hname : ':' ∉ name.toList) :
    ':' ∈ (writtenValues name values).toList ↔ ∃ value ∈ values, ':' ∈ value.toList := by
  have hmarks : ':' ∉ " \x7b".toList ∧ ':' ∉ "\x7d".toList := by decide
  simp only [writtenValues, String.toList_append, List.mem_append, hname, hmarks.1, hmarks.2,
    false_or, or_false]
  exact mem_toList_intercalate (by decide) values

theorem ne_writtenValues (name : String) (values : List String) :
    name ≠ writtenValues name values := by
  intro hsame
  have hlength := congrArg (fun text : String => text.toList.length) hsame
  simp [writtenValues] at hlength

/-- The label is the name with all values if no value has a colon and the name is not taken for that
of a built-in type, and in no other case. -/
theorem localPart_storedType_eq_iff
    (hwrites : WritesOut schema (Naming.localPart text) values) :
    Naming.localPart (storedType schema text) =
        writtenValues (Naming.localPart text) values ↔
      Naming.isPrimitive text = false ∧ ∀ value ∈ values, ':' ∉ value.toList := by
  rw [storedType, standsFor?_of_writesOut hwrites, Option.getD_some]
  cases hbuiltIn : Naming.isPrimitive text with
  | true => simp [ne_writtenValues]
  | false =>
      have hcolon : ':' ∈ (writtenValues (Naming.localPart text) values).toList ↔
          ∃ value ∈ values, ':' ∈ value.toList :=
        colon_mem_writtenValues_iff (Naming.colon_not_mem_localPart text)
      rw [if_neg Bool.false_ne_true, Naming.localPart_eq_self_iff, hcolon]
      simp

end RestModel.Schema

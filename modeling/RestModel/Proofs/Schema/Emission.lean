import RestModel.Proofs.Registry.Resolution
import RestModel.Proofs.Schema.Member

/-!
# References within one schema

A complex type is registered under the name that its schema substitutes for it, and a reference to
it is stored with the same substitution.  Unless a simple type of the schema has its name, what is
substituted is the name of a top-level element.  As long as these names hold no colon, the text that
is stored leads back to the registered name, whatever else is registered.
-/

namespace RestModel.Schema

open Xml

/-- The names of the top-level nodes of a schema with a local name. -/
def topLevelNames (schema : Element) (kind : String) : List String :=
  (schema.childrenNamed kind).filterMap (·.attribute? "name")

/-- No top-level element of the schema has a colon in its name. -/
def HasPlainElements (schema : Element) : Prop :=
  ∀ name ∈ topLevelNames schema "element", ':' ∉ name.toList

instance : DecidablePred HasPlainElements := fun schema =>
  inferInstanceAs (Decidable (∀ name ∈ topLevelNames schema "element", ':' ∉ name.toList))

/-- Only the name of a top-level element stands for a name that no simple type has. -/
theorem mem_topLevelNames_of_standsFor? {schema : Element} {name target : String}
    (hsimple : Naming.localPart name ∉ topLevelNames schema "simpleType")
    (hfound : standsFor? schema name = some target) : target ∈ topLevelNames schema "element" := by
  rw [topLevelNames, List.mem_filterMap]
  rcases Option.or_eq_some_iff.mp hfound with hgiven | ⟨-, hwritten⟩
  · obtain ⟨element, helement, hname, -⟩ := mem_givenNames_iff.mp (mem_of_lookup_reverse hgiven)
    exact ⟨element, helement, hname⟩
  · obtain ⟨simple, hmem, hname⟩ := exists_of_mem_writtenOut (mem_of_lookup_reverse hwritten)
    exact absurd (List.mem_filterMap.mpr ⟨simple, hmem, hname⟩) hsimple

/-! ## Emitted complex types -/

/-- A complex type of a schema, the name it is known by, and the type that it is registered as. -/
structure EmittedType where
  name : String
  complex : Element
  type : TypeDef

/-- The complex types of a schema with the types they are registered as, which stand behind the
types of its simple types and in the same order as the complex types themselves. -/
def emittedTypes (schema : Element) (source home : String) : List EmittedType :=
  List.zipWith (fun entry type => ⟨entry.1, entry.2, type⟩) (complexTypesOf schema)
    ((types schema source home).drop (schema.childrenNamed "simpleType").length)

/-- The type that a simple type of a schema is registered as. -/
def emittedSimpleType (schema rootElement : Element) (source home : String)
    (simple : Element) : TypeDef :=
  let start := namePrefix schema source home
  let rootName := (rootElement.attribute? "name").getD source
  let name := simpleName (!(complexTypesOf schema).isEmpty) rootName simple
  simpleType (TypeDef.named (start ++ name) (targetNamespace schema) start) (literals simple)

/-- The type that a complex type of a schema is registered as. -/
def emittedType (schema rootElement : Element) (source home : String)
    (entry : String × Element) : TypeDef :=
  let start := namePrefix schema source home
  let substitution := Substitution.ofSchema schema rootElement
  complexType
    (TypeDef.named (start ++ (substitution.find? entry.1).getD entry.1) (targetNamespace schema)
      start) substitution entry.2

variable {schema rootElement : Element} {source home : String}

theorem types_eq_append (hroot : schema.child? "element" = some rootElement) :
    types schema source home =
      (schema.childrenNamed "simpleType").map (emittedSimpleType schema rootElement source home) ++
        (complexTypesOf schema).map (emittedType schema rootElement source home) := by
  rw [types, hroot]
  rfl

/-- The types of the complex types come behind those of the simple types. -/
theorem drop_types (hroot : schema.child? "element" = some rootElement) :
    (types schema source home).drop (schema.childrenNamed "simpleType").length =
      (complexTypesOf schema).map (emittedType schema rootElement source home) := by
  rw [types_eq_append hroot, List.drop_left' (List.length_map _)]

theorem emittedTypes_eq_map (hroot : schema.child? "element" = some rootElement) :
    emittedTypes schema source home = (complexTypesOf schema).map (fun entry =>
      ⟨entry.1, entry.2, emittedType schema rootElement source home entry⟩) := by
  rw [emittedTypes, drop_types hroot, List.zipWith_map_right, List.zipWith_self]

theorem mem_emittedTypes_of_mem_complexTypesOf {name : String} {complex : Element}
    (hroot : schema.child? "element" = some rootElement)
    (hmem : (name, complex) ∈ complexTypesOf schema) :
    ⟨name, complex, emittedType schema rootElement source home (name, complex)⟩ ∈
      emittedTypes schema source home := by
  rw [emittedTypes_eq_map hroot, List.mem_map]
  exact ⟨(name, complex), hmem, rfl⟩

theorem exists_entry_of_mem_emittedTypes {emitted : EmittedType}
    (hroot : schema.child? "element" = some rootElement)
    (hmem : emitted ∈ emittedTypes schema source home) : ∃ entry ∈ complexTypesOf schema,
      emitted = ⟨entry.1, entry.2, emittedType schema rootElement source home entry⟩ := by
  rw [emittedTypes_eq_map hroot] at hmem
  obtain ⟨entry, hentry, rfl⟩ := List.mem_map.mp hmem
  exact ⟨entry, hentry, rfl⟩

theorem exists_child?_of_mem_emittedTypes {emitted : EmittedType}
    (hmem : emitted ∈ emittedTypes schema source home) :
    ∃ rootElement, schema.child? "element" = some rootElement := by
  cases hroot : schema.child? "element" with
  | some rootElement => exact ⟨rootElement, rfl⟩
  | none =>
      rw [emittedTypes, types, hroot] at hmem
      simp at hmem

theorem type_mem_types_of_mem_emittedTypes {emitted : EmittedType}
    (hmem : emitted ∈ emittedTypes schema source home) :
    emitted.type ∈ types schema source home := by
  obtain ⟨rootElement, hroot⟩ := exists_child?_of_mem_emittedTypes hmem
  obtain ⟨entry, hentry, rfl⟩ := exists_entry_of_mem_emittedTypes hroot hmem
  rw [types_eq_append hroot]
  exact List.mem_append_right _ (List.mem_map_of_mem hentry)

theorem isEnumeration_of_mem_emittedTypes {emitted : EmittedType}
    (hmem : emitted ∈ emittedTypes schema source home) : emitted.type.isEnumeration = false := by
  obtain ⟨rootElement, hroot⟩ := exists_child?_of_mem_emittedTypes hmem
  obtain ⟨entry, -, rfl⟩ := exists_entry_of_mem_emittedTypes hroot hmem
  rw [emittedType, isEnumeration_complexType]
  rfl

/-! ## References to emitted types -/

/-- The text of a reference names a type that is not built in. -/
def RefersTo (text name : String) : Prop :=
  Naming.isPrimitive text = false ∧ Naming.localPart text = name

instance (text name : String) : Decidable (RefersTo text name) :=
  inferInstanceAs (Decidable (_ ∧ _))

theorem apply_refersTo {text name : String} (hroot : schema.child? "element" = some rootElement)
    (hplain : HasPlainElements schema) (hsimple : name ∉ topLevelNames schema "simpleType")
    (hrefers : RefersTo text name) :
    RefersTo ((Substitution.ofSchema schema rootElement).apply text)
      (((Substitution.ofSchema schema rootElement).find? name).getD name) := by
  obtain ⟨hforeign, rfl⟩ := hrefers
  rw [Substitution.apply, hforeign, if_neg Bool.false_ne_true, Substitution.find?_ofSchema hroot,
    Substitution.find?_ofSchema hroot, standsFor?_localPart]
  cases hfound : standsFor? schema text with
  | none => exact ⟨hforeign, rfl⟩
  | some target =>
      have hcolon := hplain target (mem_topLevelNames_of_standsFor? hsimple hfound)
      exact ⟨Naming.isPrimitive_of_not_mem hcolon, Naming.localPart_of_not_mem hcolon⟩

/-- The stored reference to a complex type of the same schema leads to the name that this type is
registered under. -/
theorem id?_resolve_apply {known : String → Bool} {text : String} {target : EmittedType}
    (hroot : schema.child? "element" = some rootElement) (hplain : HasPlainElements schema)
    (htarget : target ∈ emittedTypes schema source home)
    (hsimple : target.name ∉ topLevelNames schema "simpleType")
    (hrefers : RefersTo text target.name) (hknown : known target.type.name = true) :
    ((TypeRef.unresolved ((Substitution.ofSchema schema rootElement).apply text)).resolve known
      (namePrefix schema source home)).id? = some target.type.name := by
  obtain ⟨hforeign, hlocal⟩ := apply_refersTo hroot hplain hsimple hrefers
  have hname : target.type.name = namePrefix schema source home ++
      Naming.localPart ((Substitution.ofSchema schema rootElement).apply text) := by
    obtain ⟨entry, -, rfl⟩ := exists_entry_of_mem_emittedTypes hroot htarget
    rw [hlocal, emittedType, name_complexType]
    rfl
  rw [hname] at hknown ⊢
  exact TypeRef.id?_resolve_of_known hforeign hknown

end RestModel.Schema

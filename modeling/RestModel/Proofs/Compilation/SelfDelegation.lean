import RestModel.Proofs.Compilation.OwnTypes
import RestModel.Proofs.Compilation.Requires
import RestModel.Proofs.Descriptor.Constructor
import RestModel.Proofs.JavaScript.Record
import RestModel.Proofs.Schema.Registration

/-!
# Constructors that delegate to themselves

The base of a type is looked up by its local name: first behind the name of the document, then as it
is.  A type that extends a type of another namespace with the same local name is thus taken for its
own base.  Nothing keeps its constructor from delegating to itself.
-/

namespace RestModel

/-- The constructor of a record delegates to the constructor of that very record. -/
def Record.DelegatesToItself (record : Record) : Prop :=
  (record.constructor.bind Constructor.base).map TypeLink.name = some record.name

instance : DecidablePred Record.DelegatesToItself := fun record =>
  inferInstanceAs (Decidable ((record.constructor.bind Constructor.base).map TypeLink.name =
    some record.name))

/-! ## Types that are their own bases -/

namespace Constructor

variable {registry : Registry} {type : TypeDef}

/-- Where no two types have the same name, a type is its own base if its reference names it. -/
theorem map_name_baseOf_eq_iff (hnodup : (registry.allTypes.map TypeDef.name).Nodup)
    (hmem : type ∈ registry.allTypes) :
    (baseOf registry type).map TypeDef.name = some type.name ↔
      type.baseRef?.bind TypeRef.id? = some type.name := by
  constructor
  · intro hown
    obtain ⟨base, hbase, hname⟩ := Option.map_eq_some_iff.mp hown
    obtain ⟨id, raw, hnamed, hfound, -⟩ := hasBase_iff.mpr hbase
    rw [TypeDef.baseRef?, hnamed, ← hname, (Registry.mem_allTypes_of_lookup_eq_some hfound).2]
    rfl
  · intro hown
    obtain ⟨ref, href, hid⟩ := Option.bind_eq_some_iff.mp hown
    have hfound : registry.lookup type.name = some type := by
      rw [Registry.lookup_eq_find?, find?_name_eq_some_iff hnodup]
      exact ⟨hmem, rfl⟩
    rw [TypeDef.baseRef?] at href
    split at href
    · next target hnamed =>
      obtain rfl : target = ref := Option.some.inj href
      have hplaceholder : type.isPlaceholder = false := by
        rw [TypeDef.isPlaceholder, hnamed]
        rfl
      simp only [baseOf, hnamed, hid, Option.bind_some, hfound, Option.filter_some, hplaceholder,
        Bool.not_false, if_true, Option.map_some]
    · exact absurd href (by simp)

theorem delegatesToItself_iff_of_constructor {record : Record}
    (hname : record.name = .ofName type.name)
    (hconstructor : record.constructor = ofType? registry type) :
    record.DelegatesToItself ↔ type.members.isEmpty = false ∧
      (baseOf registry type).map TypeDef.name = some type.name := by
  rw [Record.DelegatesToItself, hconstructor, hname, ofType?]
  cases type.members.isEmpty with
  | true => simp
  | false =>
      have hlink : ∀ base : TypeDef, Identifier.ofName base.name = .ofName type.name ↔
          base.name = type.name := by
        intro base
        exact ⟨congrArg Identifier.original, congrArg Identifier.ofName⟩
      simp only [Bool.false_eq_true, if_false, Option.bind_some, ofType, Option.map_map, true_and,
        Option.map_eq_some_iff, Function.comp_apply, TypeLink.ofType, hlink]

end Constructor

/-! ## The bases that a schema stores -/

namespace Schema

open Xml

/-- The text by which a complex type refers to the type that it extends. -/
def baseText? (complex : Element) : Option String :=
  (extension? complex).bind (·.attribute? "base")

/-- The base of a type is taken for the type itself.  Neither the text of the base nor the text that
the schema stores for it names a built-in type.  The local name of the stored text is the name of
the type: behind the prefix of the schema, or without it if no type has the name behind it. -/
structure TakesForItself (names : List String) (schema : Element) (start name text : String) :
    Prop where
  written : Naming.isPrimitive text = false
  stored : Naming.isPrimitive (registeredName schema text) = false
  own : name = start ++ Naming.localPart (registeredName schema text) ∨
    name = Naming.localPart (registeredName schema text) ∧
      start ++ Naming.localPart (registeredName schema text) ∉ names

variable {schema rootElement : Element} {source home : String}

theorem baseRef?_simpleType {blank : TypeDef} (hbase : blank.base = none)
    (literals : List String) : (simpleType blank literals).baseRef? = none := by
  rw [simpleType]
  split
  · rfl
  · rw [TypeDef.baseRef?, hbase]

theorem apply_eq_registeredName (hroot : schema.child? "element" = some rootElement)
    (text : String) : (Substitution.ofSchema schema rootElement).apply text =
      if Naming.isPrimitive text then text else registeredName schema text := by
  rw [Substitution.apply, Substitution.find?_ofSchema hroot]
  rfl

theorem baseRef?_emittedType (entry : String × Element) :
    (emittedType schema rootElement source home entry).baseRef? =
      (baseText? entry.2).map (fun text =>
        .unresolved ((Substitution.ofSchema schema rootElement).apply text)) := by
  rw [TypeDef.baseRef?, emittedType, base_complexType, complexBase?, baseText?]
  cases (extension? entry.2).bind (·.attribute? "base") <;> rfl

theorem namePrefix_emittedType (entry : String × Element) :
    (emittedType schema rootElement source home entry).namePrefix =
      namePrefix schema source home := by
  rw [emittedType, namePrefix_complexType]
  rfl

/-- Only complex types extend another type. -/
theorem exists_emitted_of_baseRef? {type : TypeDef} (hmem : type ∈ types schema source home)
    (hbase : type.baseRef? ≠ none) :
    ∃ emitted ∈ emittedTypes schema source home, emitted.type = type := by
  cases hroot : schema.child? "element" with
  | none => exact absurd hmem (by rw [types_of_no_element hroot]; exact List.not_mem_nil)
  | some rootElement =>
      rw [types_eq_append hroot] at hmem
      rcases List.mem_append.mp hmem with hsimple | hcomplex
      · obtain ⟨simple, -, rfl⟩ := List.mem_map.mp hsimple
        exact absurd (baseRef?_simpleType rfl _) hbase
      · obtain ⟨⟨name, complex⟩, hentry, rfl⟩ := List.mem_map.mp hcomplex
        exact ⟨_, mem_emittedTypes_of_mem_complexTypesOf hroot hentry, rfl⟩

/-- The stored base of a complex type leads to a known name exactly if it is taken for the type of
that name. -/
theorem id?_baseRef?_emitted_iff {emitted : EmittedType} {known : String → Bool}
    {names : List String} {name : String}
    (hmem : emitted ∈ emittedTypes schema source home) (hname : known name = true)
    (hknown : ∀ other, known other = true ↔ other ∈ names) :
    (emitted.type.baseRef?.map (·.resolve known emitted.type.namePrefix)).bind TypeRef.id? =
        some name ↔
      ∃ text, baseText? emitted.complex = some text ∧
        TakesForItself names schema (namePrefix schema source home) name text := by
  obtain ⟨rootElement, hroot⟩ := exists_child?_of_mem_emittedTypes hmem
  obtain ⟨entry, -, rfl⟩ := exists_entry_of_mem_emittedTypes hroot hmem
  rw [baseRef?_emittedType, namePrefix_emittedType]
  cases baseText? entry.2 with
  | none => simp
  | some text =>
      have hunknown : ∀ other, known other = false ↔ other ∉ names := by
        intro other
        rw [← hknown, Bool.not_eq_true]
      simp only [Option.map_some, Option.bind_some, TypeRef.id?_resolve_eq_some_iff hname,
        apply_eq_registeredName hroot, hunknown, Option.some.injEq, exists_eq_left']
      constructor
      · rintro ⟨hforeign, hown⟩
        cases hwritten : Naming.isPrimitive text with
        | true =>
            rw [hwritten, if_pos rfl] at hforeign
            exact absurd (hwritten.symm.trans hforeign) (by simp)
        | false =>
            rw [hwritten, if_neg Bool.false_ne_true] at hforeign hown
            exact ⟨hwritten, hforeign, hown⟩
      · intro htakes
        rw [htakes.written, if_neg Bool.false_ne_true]
        exact ⟨htakes.stored, htakes.own⟩

end Schema

/-! ## Compiled records -/

namespace Compilation

open JavaScript Schema

/-- A constructor delegates to itself exactly if its type has members and has been registered for a
complex type whose base is taken for that type itself. -/
theorem delegatesToItself_iff (options : Options) (documents : List SourceDocument)
    {record : Record} (hmem : record ∈ allRecords (ofDocuments options documents).interface) :
    record.DelegatesToItself ↔
      ∃ document ∈ ofKind .schema documents,
        ∃ emitted ∈ emittedTypes document.root document.name options.naming.homeNamespace,
          record.name = .ofName emitted.type.name ∧ emitted.type.members.isEmpty = false ∧
          { emitted.type with sourceDir := document.sourceDir } ∈
            (register options.naming.homeNamespace documents).types ∧
          ∃ text, baseText? emitted.complex = some text ∧
            TakesForItself (declaredNames options.naming.homeNamespace documents) document.root
              (namePrefix document.root document.name options.naming.homeNamespace)
              emitted.type.name text := by
  obtain ⟨type, htype, hname, hconstructor⟩ :
      ∃ type ∈ (ofDocuments options documents).registry.allTypes, record.name = .ofName type.name ∧
        record.constructor = Constructor.ofType? (ofDocuments options documents).registry type :=
    exists_type_of_mem_allRecords hmem
  obtain ⟨registered, hregistered, hcompiled⟩ := exists_registered_of_mem_allTypes htype
  have hknown : ∀ name, (annotated options documents).contains name = true ↔
      name ∈ declaredNames options.naming.homeNamespace documents := by
    intro name
    rw [Registry.contains_eq_true_iff, mem_names_annotated]
  have hregisteredName : (annotated options documents).contains registered.name = true := by
    rw [hknown, ← mem_names_register]
    exact Registry.name_mem_names hregistered
  rw [Constructor.delegatesToItself_iff_of_constructor hname hconstructor,
    Constructor.map_name_baseOf_eq_iff (nodup_names_allTypes options documents) htype,
    hcompiled.isEmpty_members, hcompiled.baseRef?, hcompiled.name]
  rw [hcompiled.name] at hname
  constructor
  · rintro ⟨hsome, hid⟩
    obtain ⟨document, hdocument, declared, hdeclared, rfl⟩ :=
      exists_declared_of_mem_register hregistered
    have hextends : declared.baseRef? ≠ none := by
      intro hnone
      change (declared.baseRef?.map _).bind _ = _ at hid
      rw [hnone] at hid
      exact absurd hid (by simp)
    obtain ⟨emitted, hemitted, rfl⟩ := exists_emitted_of_baseRef? hdeclared hextends
    exact ⟨document, hdocument, emitted, hemitted, hname, hsome, hregistered,
      (id?_baseRef?_emitted_iff hemitted hregisteredName hknown).mp hid⟩
  · rintro ⟨document, hdocument, emitted, hemitted, hrecord, hsome, hemittedMem, htaken⟩
    have hnames : registered.name = emitted.type.name :=
      congrArg Identifier.original (hname.symm.trans hrecord)
    obtain rfl : registered = { emitted.type with sourceDir := document.sourceDir } :=
      Registry.eq_of_name_eq hregistered hemittedMem hnames
    exact ⟨hsome, (id?_baseRef?_emitted_iff hemitted hregisteredName hknown).mpr htaken⟩

/-- A text refers to another namespace than that of its schema, by a prefix bound there. -/
def RefersAbroad (schema : Xml.Element) (text : String) : Prop :=
  ∃ qualifier name uri, text = qualifier ++ ":" ++ name ∧
    schema.attribute? ("xmlns:" ++ qualifier) = some uri ∧ uri ≠ targetNamespace schema

/-- The complex types of a schema extend types of other namespaces only. -/
def ExtendsAbroad (schema : Xml.Element) : Prop :=
  ∀ entry ∈ complexTypesOf schema, ∀ text ∈ baseText? entry.2, RefersAbroad schema text

/-- A schema with a link. -/
def linkSchema : Xml.Element :=
  ⟨"xs:schema", [("targetNamespace", "http://www.w3.org/2005/Atom")],
    [⟨"xs:element", [("name", "feed")], [], ""⟩,
     ⟨"xs:complexType", [("name", "link")],
      [⟨"xs:attribute", [("name", "href"), ("type", "xs:string")], [], ""⟩], ""⟩], ""⟩

/-- A schema with a link that extends the link of another namespace by a title. -/
def titledLinkSchema : Xml.Element :=
  ⟨"xs:schema", [("targetNamespace", "http://www.w3.org/2007/app"),
      ("xmlns:atom", "http://www.w3.org/2005/Atom")],
    [⟨"xs:element", [("name", "service")], [], ""⟩,
     ⟨"xs:complexType", [("name", "link")],
      [⟨"xs:complexContent", [], [⟨"xs:extension", [("base", "atom:link")],
        [⟨"xs:attribute", [("name", "title"), ("type", "xs:string")], [], ""⟩], ""⟩],
      ""⟩], ""⟩], ""⟩

/-- Two links, of which the second extends the first. -/
def titledLinkDocuments : List SourceDocument := [
  ⟨"wadl/atom.xsd", "atom", "", .schema, linkSchema⟩,
  ⟨"wadl/app.xsd", "app", "", .schema, titledLinkSchema⟩]

theorem exists_delegating_app_link :
    ∃ record ∈ allRecords (ofDocuments .default titledLinkDocuments).interface,
      record.name = .ofName "app-link" ∧ record.DelegatesToItself := by
  decide +kernel

/-- The local name of the base, behind the name of the document, is that of the type itself. -/
theorem takesForItself_titledLinkDocuments :
    ∃ document ∈ ofKind .schema titledLinkDocuments,
      ∃ emitted ∈ emittedTypes document.root document.name "polycom",
        emitted.type.name = "app-link" ∧ ∃ text, baseText? emitted.complex = some text ∧
          TakesForItself (declaredNames "polycom" titledLinkDocuments) document.root
            (namePrefix document.root document.name "polycom") emitted.type.name text := by
  obtain ⟨record, hmem, hname, hdelegates⟩ := exists_delegating_app_link
  obtain ⟨document, hdocument, emitted, hemitted, hrecord, -, -, htaken⟩ :=
    (delegatesToItself_iff .default titledLinkDocuments hmem).mp hdelegates
  exact ⟨document, hdocument, emitted, hemitted,
    congrArg Identifier.original (hrecord.symm.trans hname), htaken⟩

/-- Both schemas extend types of other namespaces only, yet the second link delegates to itself
instead of the first one, which is described too. -/
theorem delegates_to_itself_despite_extendsAbroad :
    (∀ document ∈ ofKind .schema titledLinkDocuments, ExtendsAbroad document.root) ∧
    (allRecords (ofDocuments .default titledLinkDocuments).interface).map (·.name.original) =
      ["atom-link", "app-link"] ∧
    ∃ record ∈ allRecords (ofDocuments .default titledLinkDocuments).interface,
      record.name = .ofName "app-link" ∧ record.DelegatesToItself := by
  have hfirst : ∀ entry ∈ complexTypesOf linkSchema, baseText? entry.2 = none := by decide +kernel
  have hsecond : ∀ entry ∈ complexTypesOf titledLinkSchema,
      baseText? entry.2 = some "atom:link" := by decide +kernel
  refine ⟨?_, by decide +kernel, exists_delegating_app_link⟩
  intro document hdocument entry hentry text htext
  rcases List.mem_cons.mp hdocument with rfl | hother
  · exact absurd ((hfirst entry hentry).symm.trans htext) (by simp)
  · obtain rfl := List.mem_singleton.mp hother
    obtain rfl : "atom:link" = text := Option.some.inj ((hsecond entry hentry).symm.trans htext)
    exact ⟨"atom", "link", "http://www.w3.org/2005/Atom", by decide, rfl, by decide +kernel⟩

end Compilation

end RestModel

import RestModel.Proofs.Schema.Place

/-!
# One type for each definition

A schema defines its simple types and the complex types in it that have a name, be it their own or
that of the element they stand in.  If it has a top-level element, one type is made of each
definition: those of the simple types come first, and then those of the complex types in the order of
their places.  Otherwise no type is made.
-/

namespace RestModel

namespace Text

theorem containsChars_iff (fragment text : List Char) :
    containsChars fragment text = true ↔ fragment <:+: text := by
  induction text with
  | nil => rw [containsChars, List.isEmpty_iff, List.infix_nil]
  | cons char rest ih =>
      rw [containsChars, Bool.or_eq_true, List.isPrefixOf_iff_prefix, ih, List.infix_cons_iff]

theorem contains_iff (fragment text : String) :
    contains fragment text = true ↔ fragment.toList <:+: text.toList :=
  containsChars_iff _ _

end Text

namespace Schema

open Xml

variable {schema rootElement simple : Element} {source home : String} {blank type : TypeDef}

/-! ## Simple types -/

/-- A simple type restricts the built-in strings to some values. -/
def RestrictsStrings (simple : Element) : Prop :=
  ∃ restriction, simple.child? "restriction" = some restriction ∧
    (∃ base, restriction.attribute? "base" = some base ∧
      Naming.isPrimitive base = true ∧ Naming.localPart base = "string") ∧
    ∃ facet ∈ restriction.childrenNamed "enumeration", (facet.attribute? "value").isSome

/-- The type is made of a simple type: an enumeration if that restricts strings, and a placeholder
otherwise. -/
structure IsSimpleTypeOf (schema rootElement : Element) (source home : String) (simple : Element)
    (type : TypeDef) : Prop where
  emitted : type = emittedSimpleType schema rootElement source home simple
  enumeration : type.isEnumeration = true ↔ RestrictsStrings simple
  placeholder : ¬RestrictsStrings simple → type.isPlaceholder = true ∧ type.members.isEmpty = true

theorem isStringBase_iff {base : String} :
    isStringBase base = true ↔ Naming.isPrimitive base = true ∧ Naming.localPart base = "string" := by
  rw [isStringBase, Bool.and_eq_true, beq_iff_eq]

theorem isEmpty_facetValues_iff {restriction : Element} :
    (facetValues restriction).isEmpty = false ↔
      ∃ facet ∈ restriction.childrenNamed "enumeration", (facet.attribute? "value").isSome := by
  rw [List.isEmpty_eq_false_iff_exists_mem]
  simp only [facetValues, List.mem_filterMap, Option.isSome_iff_exists]
  constructor
  · rintro ⟨value, facet, hfacet, hvalue⟩
    exact ⟨facet, hfacet, value, hvalue⟩
  · rintro ⟨facet, hfacet, value, hvalue⟩
    exact ⟨value, facet, hfacet, hvalue⟩

theorem any_isStringBase_iff {base? : Option String} : base?.any isStringBase = true ↔
    ∃ base, base? = some base ∧
      Naming.isPrimitive base = true ∧ Naming.localPart base = "string" := by
  cases base? <;> simp [isStringBase_iff]

theorem isEmpty_literals_iff : (literals simple).isEmpty = false ↔ RestrictsStrings simple := by
  rw [literals]
  constructor
  · intro hsome
    split at hsome
    · exact absurd hsome (by simp)
    · next restriction hrestriction =>
      split at hsome
      · next hstring =>
        exact ⟨restriction, hrestriction, any_isStringBase_iff.mp hstring,
          isEmpty_facetValues_iff.mp hsome⟩
      · exact absurd hsome (by simp)
  · rintro ⟨restriction, hrestriction, hstring, hfacet⟩
    simp only [hrestriction, if_pos (any_isStringBase_iff.mpr hstring)]
    exact isEmpty_facetValues_iff.mpr hfacet

instance : DecidablePred RestrictsStrings :=
  fun _ => decidable_of_iff _ isEmpty_literals_iff

theorem namePrefix_simpleType (blank : TypeDef) (literals : List String) :
    (simpleType blank literals).namePrefix = blank.namePrefix := by
  rw [simpleType]
  split <;> rfl

theorem namespaceUri_simpleType (blank : TypeDef) (literals : List String) :
    (simpleType blank literals).namespaceUri = blank.namespaceUri := by
  rw [simpleType]
  split <;> rfl

theorem isEnumeration_simpleType (hrecord : blank.isEnumeration = false) (literals : List String) :
    (simpleType blank literals).isEnumeration = !literals.isEmpty := by
  rw [simpleType]
  split
  · next hnone => rw [hrecord, hnone, Bool.not_true]
  · next hsome => rw [Bool.eq_false_iff.mpr hsome, Bool.not_false]

theorem isSimpleTypeOf_emittedSimpleType (schema rootElement : Element) (source home : String)
    (simple : Element) : IsSimpleTypeOf schema rootElement source home simple
      (emittedSimpleType schema rootElement source home simple) where
  emitted := rfl
  enumeration := by
    rw [emittedSimpleType, isEnumeration_simpleType rfl, Bool.not_eq_true', isEmpty_literals_iff]
  placeholder := by
    intro hother
    have hnone : (literals simple).isEmpty = true := by
      rw [← isEmpty_literals_iff, Bool.not_eq_false] at hother
      exact hother
    rw [emittedSimpleType, simpleType, if_pos hnone]
    exact ⟨rfl, rfl⟩

/-! ## Complex types -/

/-- A complex type with a name stands at the place. -/
def HoldsDefinition (schema : Element) (place : Place) : Prop :=
  ∃ placed, placedAt? schema place = some placed ∧ placed.knownName?.isSome

/-- The places are those of the named complex types of a schema, each once and in order. -/
structure AreDefinitionPlaces (schema : Element) (places : List Place) : Prop where
  nodup : places.Nodup
  ordered : places.Pairwise Place.ComesBefore
  complete : ∀ place, place ∈ places ↔ HoldsDefinition schema place

/-- The type is made of the complex type at a place. -/
def IsTypeAt (schema rootElement : Element) (source home : String) (place : Place)
    (type : TypeDef) : Prop :=
  ∃ placed name, placedAt? schema place = some placed ∧ placed.knownName? = some name ∧
    type = emittedType schema rootElement source home (name, placed.complex)

/-- The places of the named complex types of a schema. -/
def definitionPlaces (schema : Element) : List Place :=
  ((definitions schema).filter (fun entry => entry.2.knownName?.isSome)).map Prod.fst

theorem areDefinitionPlaces (schema : Element) :
    AreDefinitionPlaces schema (definitionPlaces schema) := by
  have hordered : (definitionPlaces schema).Pairwise Place.ComesBefore :=
    List.pairwise_map.mpr ((pairwise_definitions schema).filter _)
  refine ⟨hordered.imp Place.ComesBefore.ne, hordered, fun place => ?_⟩
  rw [definitionPlaces, List.mem_map]
  constructor
  · rintro ⟨⟨place, placed⟩, hentry, rfl⟩
    obtain ⟨hplaced, hnamed⟩ := List.mem_filter.mp hentry
    exact ⟨placed, mem_definitions_iff.mp hplaced, hnamed⟩
  · rintro ⟨placed, hplaced, hnamed⟩
    exact ⟨(place, placed), List.mem_filter.mpr ⟨mem_definitions_iff.mpr hplaced, hnamed⟩, rfl⟩

/-- The types of the complex types are in step with the places of these. -/
theorem forall₂_definitionPlaces (schema rootElement : Element) (source home : String) :
    List.Forall₂ (IsTypeAt schema rootElement source home) (definitionPlaces schema)
      ((complexTypesOf schema).map (emittedType schema rootElement source home)) := by
  have htypes : (complexTypesOf schema).map (emittedType schema rootElement source home) =
      (definitions schema).filterMap (fun entry => entry.2.knownName?.map (fun name =>
        emittedType schema rootElement source home (name, entry.2.complex))) := by
    rw [complexTypesOf_eq_filterMap, ← map_snd_definitions, List.map_filterMap,
      List.filterMap_map]
    simp only [Option.map_map, Function.comp_def]
  have hstep := forall₂_filter_filterMap (fun entry : Place × PlacedType =>
    entry.2.knownName?.map (fun name =>
      emittedType schema rootElement source home (name, entry.2.complex))) (definitions schema)
  simp only [Option.isSome_map] at hstep
  have hplaced : ∀ entry ∈ (definitions schema).filter (fun entry => entry.2.knownName?.isSome),
      placedAt? schema entry.1 = some entry.2 := by
    intro entry hentry
    exact mem_definitions_iff.mp (List.mem_filter.mp hentry).1
  rw [htypes, definitionPlaces, List.forall₂_map_left_iff]
  refine ((List.forall₂_and_left _ _).mpr ⟨hplaced, hstep⟩).imp fun entry type hboth => ?_
  obtain ⟨name, hname, rfl⟩ := Option.map_eq_some_iff.mp hboth.2
  exact ⟨entry.2, name, hboth.1, hname, rfl⟩

/-! ## The whole schema -/

/-- The type has the namespace of a schema, and a name that begins with the prefix of the schema:
the name of the document if the namespace does not hold the marker of the home namespace. -/
structure IsNamedWithin (schema : Element) (source home : String) (type : TypeDef) : Prop where
  namespaceUri : type.namespaceUri = (schema.attribute? "targetNamespace").getD ""
  home : type.namePrefix = "" ↔ home.toList <:+: type.namespaceUri.toList
  foreign : type.namePrefix = "" ∨ type.namePrefix = source ++ "-"
  name : ∃ rest, type.name = type.namePrefix ++ rest

theorem namePrefix_eq_empty_iff :
    namePrefix schema source home = "" ↔ home.toList <:+: (targetNamespace schema).toList := by
  rw [namePrefix, ← Text.contains_iff]
  split
  · next hhome => simp [hhome]
  · next hforeign => simp [hforeign]

theorem isNamedWithin_of_eq {name : String} (hnamespace : type.namespaceUri = targetNamespace schema)
    (hstart : type.namePrefix = namePrefix schema source home)
    (hname : type.name = namePrefix schema source home ++ name) :
    IsNamedWithin schema source home type where
  namespaceUri := hnamespace
  home := by rw [hstart, hnamespace, namePrefix_eq_empty_iff]
  foreign := by
    rw [hstart, namePrefix]
    split
    · exact Or.inl rfl
    · exact Or.inr rfl
  name := ⟨name, by rw [hname, hstart]⟩

theorem isNamedWithin_of_mem_types (hmem : type ∈ types schema source home) :
    IsNamedWithin schema source home type := by
  cases hroot : schema.child? "element" with
  | none =>
      rw [types_of_no_element hroot] at hmem
      exact absurd hmem List.not_mem_nil
  | some rootElement =>
      rw [types_eq_append hroot, List.mem_append] at hmem
      rcases hmem with hsimple | hcomplex
      · obtain ⟨simple, -, rfl⟩ := List.mem_map.mp hsimple
        exact isNamedWithin_of_eq (namespaceUri_simpleType _ _) (namePrefix_simpleType _ _)
          (name_emittedSimpleType simple)
      · obtain ⟨entry, -, rfl⟩ := List.mem_map.mp hcomplex
        exact isNamedWithin_of_eq (namespaceUri_complexType _ _ _) (namePrefix_complexType _ _ _)
          (name_emittedType hroot entry)

/-- Without a top-level element a schema gives no types.  Otherwise one type is made of each of its
simple types, in order and as an enumeration exactly if that restricts strings, and then one of each
named complex type in it, in the order of their places.  All types have the namespace of the schema
and its prefix. -/
theorem types_of_definitions (schema : Element) (source home : String) :
    (schema.child? "element" = none → types schema source home = []) ∧
    (∀ rootElement, schema.child? "element" = some rootElement →
      ∃ simples complexes, types schema source home = simples ++ complexes ∧
        List.Forall₂ (IsSimpleTypeOf schema rootElement source home)
          (schema.childrenNamed "simpleType") simples ∧
        ∃ places, AreDefinitionPlaces schema places ∧
          List.Forall₂ (IsTypeAt schema rootElement source home) places complexes) ∧
    ∀ type ∈ types schema source home, IsNamedWithin schema source home type := by
  refine ⟨types_of_no_element, ?_, fun type hmem => isNamedWithin_of_mem_types hmem⟩
  intro rootElement hroot
  refine ⟨_, _, types_eq_append hroot, ?_, definitionPlaces schema, areDefinitionPlaces schema,
    forall₂_definitionPlaces schema rootElement source home⟩
  rw [List.forall₂_map_right_iff, List.forall₂_same]
  intro simple _
  exact isSimpleTypeOf_emittedSimpleType schema rootElement source home simple

/-- A simple type without values. -/
def labelType : Element :=
  ⟨"xs:simpleType", [("name", "label")], [⟨"xs:restriction", [("base", "xs:string")], [], ""⟩], ""⟩

/-- A building with a floor and, in an element below that, a room. -/
def buildingSchema : Element :=
  ⟨"xs:schema", [("targetNamespace", "urn:example:building")],
    [⟨"xs:element", [("name", "floor")],
      [⟨"xs:element", [("name", "room")],
        [⟨"xs:complexType", [], [], ""⟩, ⟨"xs:complexType", [("name", "room-type")], [], ""⟩], ""⟩,
       ⟨"xs:complexType", [], [], ""⟩], ""⟩,
     ⟨"xs:element", [], [⟨"xs:complexType", [], [], ""⟩], ""⟩,
     ⟨"xs:complexType", [("name", "building")], [], ""⟩,
     labelType], ""⟩

/-- The simple type is a placeholder.  Four complex types have names, among them the second one of the
room; the one in the element without a name is left out. -/
theorem types_buildingSchema :
    (types buildingSchema "house" "polycom").map TypeDef.name =
      ["house-label", "house-building", "house-floor", "house-room", "house-room-type"] ∧
    (∀ type ∈ types buildingSchema "house" "polycom", type.namePrefix ≠ "") ∧
    ∃ simple complexes places, types buildingSchema "house" "polycom" = simple :: complexes ∧
      simple.isPlaceholder = true ∧ AreDefinitionPlaces buildingSchema places ∧
      places.length = 4 ∧ ⟨[0, 0], 1⟩ ∈ places := by
  obtain ⟨-, hdefinitions, hnamed⟩ := types_of_definitions buildingSchema "house" "polycom"
  have hnames : (types buildingSchema "house" "polycom").map TypeDef.name =
      ["house-label", "house-building", "house-floor", "house-room", "house-room-type"] := by
    decide +kernel
  refine ⟨hnames, ?_, ?_⟩
  · intro type hmem
    rw [ne_eq, (hnamed type hmem).home, (hnamed type hmem).namespaceUri]
    decide +kernel
  · obtain ⟨simples, complexes, htypes, hsimples, places, hplaces, hcomplexes⟩ :=
      hdefinitions _ rfl
    have hlabel : buildingSchema.childrenNamed "simpleType" = [labelType] := rfl
    rw [hlabel] at hsimples
    obtain ⟨simple, rest, hsimple, hrest, rfl⟩ := List.forall₂_cons_left_iff.mp hsimples
    rw [List.forall₂_nil_left_iff] at hrest
    subst hrest
    have hlength : complexes.length = 4 := by
      have hcount := congrArg List.length hnames
      rw [htypes] at hcount
      simpa using hcount
    refine ⟨simple, complexes, places, htypes, ?_, hplaces, ?_, ?_⟩
    · exact (hsimple.placeholder (by decide +kernel)).1
    · rw [hcomplexes.length_eq, hlength]
    · exact (hplaces.complete _).mpr ⟨_, rfl, by decide +kernel⟩

end Schema

end RestModel

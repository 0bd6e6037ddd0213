import RestModel.Proofs.Registry.Lookup
import RestModel.Proofs.Schema.Emission

/-!
# The names of the types of a schema

A complex type is known by its own name or by that of the element it stands in, and is registered
under what the schema substitutes for this name.  The substitution is meant for the names of types,
but it is looked up with the names of elements too, so that a type can be registered under a name
that leads nowhere, and two types of one schema under the same name.
-/

namespace RestModel.Schema

open Xml

/-! ## Complex types in their places -/

mutual

/-- The nodes below which complex types are looked for: a node, then the elements below it. -/
def nodesFrom : Element → List Element
  | ⟨name, attributes, children, text⟩ =>
    ⟨name, attributes, children, text⟩ :: nodesFromElements children

/-- The nodes from the elements among some nodes on, in order. -/
def nodesFromElements : List Element → List Element
  | [] => []
  | node :: rest =>
    (if node.localName = "element" then nodesFrom node else []) ++ nodesFromElements rest

end

/-- A complex type and the node it stands in. -/
structure PlacedType where
  parent : Element
  complex : Element

namespace PlacedType

/-- The name of the element that the type stands in. -/
def enclosing? (placed : PlacedType) : Option String :=
  if placed.parent.localName = "element" then placed.parent.attribute? "name" else none

/-- The name that the type is known by: its own, or that of the element it stands in. -/
def knownName? (placed : PlacedType) : Option String :=
  (placed.complex.attribute? "name").or placed.enclosing?

/-- The names under which the type can be found: for a type without a name that of the element it
stands in, and otherwise its own name and those of the top-level elements declared with it. -/
def usableNames (schema : Element) (placed : PlacedType) : List String :=
  match placed.complex.attribute? "name" with
  | some name => name :: ((givenNames schema).filter (·.1 == name)).map Prod.snd
  | none => placed.enclosing?.toList

end PlacedType

/-- The complex types of a schema in order, each in its place. -/
def placedTypes (schema : Element) : List PlacedType :=
  (nodesFrom schema).flatMap (fun node => (node.childrenNamed "complexType").map (⟨node, ·⟩))

/-- The complex types of a schema that are known by a name. -/
def knownTypes (schema : Element) : List PlacedType :=
  (placedTypes schema).filter (fun placed => placed.knownName?.isSome)

/-- The type is registered under a name under which it can be found. -/
def IsUsable (schema : Element) (start : String) (placed : PlacedType) (type : TypeDef) : Prop :=
  ∃ name ∈ placed.usableNames schema, type.name = start ++ name

instance (schema : Element) (start : String) (placed : PlacedType) (type : TypeDef) :
    Decidable (IsUsable schema start placed type) :=
  inferInstanceAs (Decidable (∃ name ∈ placed.usableNames schema, type.name = start ++ name))

/-- Whatever the schema substitutes for the name of the type is a name under which it can be
found. -/
def StaysUsable (schema : Element) (placed : PlacedType) : Prop :=
  ∀ name ∈ placed.knownName?, ∀ target ∈ standsFor? schema name,
    target ∈ placed.usableNames schema

theorem ownComplexTypes_eq_filterMap (node : Element) : ownComplexTypes node =
    ((node.childrenNamed "complexType").map (PlacedType.mk node)).filterMap
      (fun placed => placed.knownName?.map (·, placed.complex)) := by
  rw [ownComplexTypes, List.filterMap_map]
  congr 1
  funext complex
  rw [Function.comp_apply, PlacedType.knownName?]
  cases complex.attribute? "name" <;> rfl

mutual

theorem complexTypesOf_eq_flatMap : ∀ node : Element,
    complexTypesOf node = (nodesFrom node).flatMap ownComplexTypes
  | ⟨name, attributes, children, text⟩ => by
    rw [complexTypesOf, nodesFrom, List.flatMap_cons, complexTypesOfElements_eq_flatMap children]

theorem complexTypesOfElements_eq_flatMap : ∀ nodes : List Element,
    complexTypesOfElements nodes = (nodesFromElements nodes).flatMap ownComplexTypes
  | [] => rfl
  | node :: rest => by
    rw [complexTypesOfElements, nodesFromElements, List.flatMap_append,
      complexTypesOfElements_eq_flatMap rest]
    split
    · rw [complexTypesOf_eq_flatMap node]
    · rfl

end

theorem complexTypesOf_eq_filterMap (schema : Element) : complexTypesOf schema =
    (placedTypes schema).filterMap (fun placed => placed.knownName?.map (·, placed.complex)) := by
  rw [complexTypesOf_eq_flatMap, placedTypes, List.filterMap_flatMap]
  apply List.flatMap_congr
  intro node _
  exact ownComplexTypes_eq_filterMap node

/-! ## Registered names -/

/-- The name that a schema registers a complex type under, before its prefix. -/
def registeredName (schema : Element) (name : String) : String :=
  (standsFor? schema name).getD name

variable {schema rootElement : Element} {source home : String}

theorem name_simpleType (blank : TypeDef) (literals : List String) :
    (simpleType blank literals).name = blank.name := by
  rw [simpleType]
  split <;> rfl

theorem name_emittedSimpleType (simple : Element) :
    (emittedSimpleType schema rootElement source home simple).name =
      namePrefix schema source home ++ simpleName (!(complexTypesOf schema).isEmpty)
        ((rootElement.attribute? "name").getD source) simple :=
  name_simpleType _ _

theorem name_emittedType (hroot : schema.child? "element" = some rootElement)
    (entry : String × Element) : (emittedType schema rootElement source home entry).name =
      namePrefix schema source home ++ registeredName schema entry.1 := by
  rw [emittedType, name_complexType, Substitution.find?_ofSchema hroot]
  rfl

theorem knownName?_mem_usableNames {placed : PlacedType} {name : String}
    (hname : placed.knownName? = some name) : name ∈ placed.usableNames schema := by
  rw [PlacedType.knownName?] at hname
  rw [PlacedType.usableNames]
  cases hown : placed.complex.attribute? "name" with
  | some own =>
      rw [hown, Option.some_or, Option.some.injEq] at hname
      exact hname ▸ List.mem_cons_self
  | none =>
      rw [hown, Option.none_or] at hname
      exact Option.mem_toList.mpr hname

/-- The name of a complex type stays usable exactly if all that is substituted for it is. -/
theorem isUsable_emittedType_iff (hroot : schema.child? "element" = some rootElement)
    {placed : PlacedType} {name : String} (hname : placed.knownName? = some name) :
    IsUsable schema (namePrefix schema source home) placed
      (emittedType schema rootElement source home (name, placed.complex)) ↔
        StaysUsable schema placed := by
  have husable : IsUsable schema (namePrefix schema source home) placed
      (emittedType schema rootElement source home (name, placed.complex)) ↔
        registeredName schema name ∈ placed.usableNames schema := by
    rw [IsUsable, name_emittedType hroot]
    simp only [String.append_right_inj, exists_eq_right']
  rw [husable, StaysUsable, hname, registeredName]
  cases hfound : standsFor? schema name with
  | none => simp [hfound, knownName?_mem_usableNames hname]
  | some target => simp [hfound]

theorem drop_types_eq_filterMap (hroot : schema.child? "element" = some rootElement) :
    (types schema source home).drop (schema.childrenNamed "simpleType").length =
      (placedTypes schema).filterMap (fun placed => placed.knownName?.map (fun name =>
        emittedType schema rootElement source home (name, placed.complex))) := by
  rw [drop_types hroot, complexTypesOf_eq_filterMap, List.map_filterMap]
  simp only [Option.map_map, Function.comp_def]

/-- Only an element gives another name to a type whose name has no colon and is not that of a simple
type. -/
theorem mem_givenNames_of_standsFor? {name target : String} (hplain : ':' ∉ name.toList)
    (hsimple : name ∉ topLevelNames schema "simpleType")
    (htarget : standsFor? schema name = some target) : (name, target) ∈ givenNames schema := by
  rw [standsFor?, Naming.localPart_of_not_mem hplain, Option.or_eq_some_iff] at htarget
  rcases htarget with hgiven | ⟨-, hwritten⟩
  · exact mem_of_lookup_reverse hgiven
  · obtain ⟨simple, hmem, hname⟩ := exists_of_mem_writtenOut (mem_of_lookup_reverse hwritten)
    exact absurd (List.mem_filterMap.mpr ⟨simple, hmem, hname⟩) hsimple

/-- The names of the complex types of a schema have no colon, are not those of its simple types and,
where they come from elements, are not those of types that top-level elements are declared with. -/
structure KeepsNamesApart (schema : Element) : Prop where
  plain : ∀ name ∈ (complexTypesOf schema).map Prod.fst, ':' ∉ name.toList
  simple : ∀ name ∈ (complexTypesOf schema).map Prod.fst, name ∉ topLevelNames schema "simpleType"
  anonymous : ∀ placed ∈ placedTypes schema, placed.complex.attribute? "name" = none →
    ∀ name ∈ placed.enclosing?, name ∉ (givenNames schema).map Prod.fst

theorem staysUsable_of_keepsNamesApart (hapart : KeepsNamesApart schema) {placed : PlacedType}
    (hplaced : placed ∈ placedTypes schema) : StaysUsable schema placed := by
  intro name hname target htarget
  have hknown : name ∈ (complexTypesOf schema).map Prod.fst := by
    rw [complexTypesOf_eq_filterMap, List.map_filterMap, List.mem_filterMap]
    exact ⟨placed, hplaced, by simp [Option.mem_def.mp hname]⟩
  have hpair := mem_givenNames_of_standsFor? (hapart.plain name hknown)
    (hapart.simple name hknown) htarget
  rw [Option.mem_def, PlacedType.knownName?] at hname
  rw [PlacedType.usableNames]
  cases hown : placed.complex.attribute? "name" with
  | some own =>
      rw [hown, Option.some_or, Option.some.injEq] at hname
      subst hname
      refine List.mem_cons_of_mem own (List.mem_map.mpr ⟨_, List.mem_filter.mpr ⟨hpair, ?_⟩, rfl⟩)
      exact beq_self_eq_true own
  | none =>
      -- The element that gives the name is declared with a type called like the enclosing element.
      rw [hown, Option.none_or] at hname
      exact absurd (List.mem_map_of_mem hpair) (hapart.anonymous placed hplaced hown name hname)

/-- A complex type of a schema is registered under a name under which it can be found exactly if
whatever the schema substitutes for its name is such a name.  Where the names of the schema keep
apart what they name, this is so for all of its complex types. -/
theorem complexTypes_usable_iff {schema : Element} (source home : String)
    (hroot : (schema.child? "element").isSome) :
    List.Forall₂ (fun placed type =>
        IsUsable schema (namePrefix schema source home) placed type ↔ StaysUsable schema placed)
      (knownTypes schema)
      ((types schema source home).drop (schema.childrenNamed "simpleType").length) ∧
    (KeepsNamesApart schema →
      List.Forall₂ (IsUsable schema (namePrefix schema source home)) (knownTypes schema)
        ((types schema source home).drop (schema.childrenNamed "simpleType").length)) := by
  obtain ⟨rootElement, hroot⟩ := Option.isSome_iff_exists.mp hroot
  have hstep := forall₂_filter_filterMap (fun placed : PlacedType => placed.knownName?.map
    (fun name => emittedType schema rootElement source home (name, placed.complex)))
    (placedTypes schema)
  rw [← drop_types_eq_filterMap hroot] at hstep
  simp only [Option.isSome_map] at hstep
  have hiff : List.Forall₂ (fun placed type =>
      IsUsable schema (namePrefix schema source home) placed type ↔ StaysUsable schema placed)
      (knownTypes schema)
      ((types schema source home).drop (schema.childrenNamed "simpleType").length) := by
    refine hstep.imp fun placed type htype => ?_
    obtain ⟨name, hname, rfl⟩ := Option.map_eq_some_iff.mp htype
    exact isUsable_emittedType_iff hroot hname
  refine ⟨hiff, fun hapart => ?_⟩
  have husable : ∀ placed ∈ knownTypes schema, StaysUsable schema placed := by
    intro placed hplaced
    exact staysUsable_of_keepsNamesApart hapart (List.mem_filter.mp hplaced).1
  exact ((List.forall₂_and_left _ _).mpr ⟨husable, hiff⟩).imp fun _ _ hboth => hboth.2.mpr hboth.1

/-- A schema with a level, a site, which is declared by name, and a room, which is declared in
place. -/
def siteSchema : Element :=
  ⟨"xs:schema", [("targetNamespace", "urn:polycom:site")],
    [⟨"xs:element", [("name", "plcm-site"), ("type", "tns:SiteType")], [], ""⟩,
     ⟨"xs:element", [("name", "plcm-room")], [⟨"xs:complexType", [], [], ""⟩], ""⟩,
     ⟨"xs:complexType", [("name", "SiteType")], [], ""⟩,
     ⟨"xs:simpleType", [("name", "level")],
      [⟨"xs:restriction", [("base", "xs:int")], [], ""⟩], ""⟩], ""⟩

/-- The site is registered under the name of its element, like the room. -/
theorem usable_siteSchema :
    (types siteSchema "site" "polycom").map TypeDef.name = ["level", "plcm-site", "plcm-room"] ∧
    List.Forall₂ (IsUsable siteSchema "") (knownTypes siteSchema)
      ((types siteSchema "site" "polycom").drop 1) := by
  have hapart : KeepsNamesApart siteSchema := by
    constructor
    · decide +kernel
    · decide +kernel
    · decide +kernel
  exact ⟨by decide +kernel,
    (complexTypes_usable_iff "site" "polycom" (by decide +kernel)).2 hapart⟩

/-- The element of a site is called like the type that a home is declared with. -/
def homeSchema : Element :=
  ⟨"xs:schema", [("targetNamespace", "urn:polycom:home")],
    [⟨"xs:element", [("name", "site")], [⟨"xs:complexType", [], [], ""⟩], ""⟩,
     ⟨"xs:element", [("name", "plcm-home"), ("type", "tns:site")], [], ""⟩,
     ⟨"xs:complexType", [("name", "site")], [], ""⟩], ""⟩

/-- The type of the site is registered under the name of the home. -/
theorem not_usable_homeSchema : ¬ List.Forall₂ (IsUsable homeSchema "") (knownTypes homeSchema)
    (types homeSchema "home" "polycom") := by
  decide +kernel

/-! ## Distinct names -/

/-- The simple types of a schema have names of their own, and no two of its types are known by the
same name. -/
def HasDistinctNames (schema : Element) : Prop :=
  (∀ simple ∈ schema.childrenNamed "simpleType", (simple.attribute? "name").isSome) ∧
    (topLevelNames schema "simpleType" ++ (complexTypesOf schema).map Prod.fst).Nodup

instance : DecidablePred HasDistinctNames := fun _ => inferInstanceAs (Decidable (_ ∧ _))

/-- No complex type of a schema is registered under the name of another type instead of its own. -/
def RenamesApart (schema : Element) : Prop :=
  ∀ name ∈ (complexTypesOf schema).map Prod.fst, registeredName schema name ≠ name →
    registeredName schema name ∉ topLevelNames schema "simpleType" ∧
      ∀ other ∈ (complexTypesOf schema).map Prod.fst, other ≠ name →
        registeredName schema other ≠ registeredName schema name

instance : DecidablePred RenamesApart := fun schema =>
  inferInstanceAs (Decidable (∀ name ∈ (complexTypesOf schema).map Prod.fst, _))

/-- The names of the complex types of a schema have no colon, a top-level element that is called like
a type is declared with it, and top-level elements of one name are declared with one type. -/
structure NamesElementsApart (schema : Element) : Prop where
  plain : ∀ name ∈ (complexTypesOf schema).map Prod.fst, ':' ∉ name.toList
  types : ∀ pair ∈ givenNames schema,
    pair.2 ∈ topLevelNames schema "simpleType" ++ (complexTypesOf schema).map Prod.fst →
      pair.1 = pair.2
  elements : ∀ left ∈ givenNames schema, ∀ right ∈ givenNames schema,
    left.2 = right.2 → left.1 = right.1

/-- The types have distinct names, so that a registry takes them all. -/
def AreTakenAll (types : List TypeDef) : Prop :=
  (types.map TypeDef.name).Nodup ∧ (Registry.empty.insertAll types).types = types

theorem areTakenAll_iff {types : List TypeDef} :
    AreTakenAll types ↔ (types.map TypeDef.name).Nodup := by
  refine ⟨And.left, fun hnodup => ⟨hnodup, ?_⟩⟩
  exact Registry.types_insertAll_of_nodup hnodup

theorem nodup_map_registeredName (hnodup : ((complexTypesOf schema).map Prod.fst).Nodup)
    (hapart : RenamesApart schema) :
    (((complexTypesOf schema).map Prod.fst).map (registeredName schema)).Nodup := by
  apply hnodup.map_on
  intro left hleft right hright hsame
  by_contra hne
  -- Of two different types with the same registered name, one has been renamed.
  by_cases hkept : registeredName schema left = left
  · by_cases hkeptRight : registeredName schema right = right
    · exact hne (hkept.symm.trans (hsame.trans hkeptRight))
    · exact (hapart right hright hkeptRight).2 left hleft hne hsame
  · exact (hapart left hleft hkept).2 right hright (Ne.symm hne) hsame.symm

theorem registeredName_not_mem_topLevelNames
    (hdistinct : HasDistinctNames schema) (hapart : RenamesApart schema) {name : String}
    (hname : name ∈ (complexTypesOf schema).map Prod.fst) :
    registeredName schema name ∉ topLevelNames schema "simpleType" := by
  by_cases hkept : registeredName schema name = name
  · rw [hkept]
    intro hsimple
    exact (List.nodup_append.mp hdistinct.2).2.2 name hsimple name hname rfl
  · exact (hapart name hname hkept).1

theorem nodup_registeredNames (hdistinct : HasDistinctNames schema)
    (hapart : RenamesApart schema) : (topLevelNames schema "simpleType" ++
      ((complexTypesOf schema).map Prod.fst).map (registeredName schema)).Nodup := by
  obtain ⟨hsimple, hcomplex, -⟩ := List.nodup_append.mp hdistinct.2
  rw [List.nodup_append]
  refine ⟨hsimple, nodup_map_registeredName hcomplex hapart, ?_⟩
  intro simple hmem registered hregistered hsame
  obtain ⟨name, hname, rfl⟩ := List.mem_map.mp hregistered
  exact registeredName_not_mem_topLevelNames hdistinct hapart hname (hsame ▸ hmem)

theorem renamesApart_of_namesElementsApart (hdistinct : HasDistinctNames schema)
    (helements : NamesElementsApart schema) : RenamesApart schema := by
  have hgiven : ∀ name ∈ (complexTypesOf schema).map Prod.fst, registeredName schema name ≠ name →
      (name, registeredName schema name) ∈ givenNames schema := by
    intro name hname hrenamed
    have hsimple : name ∉ topLevelNames schema "simpleType" :=
      fun hsimple => (List.nodup_append.mp hdistinct.2).2.2 name hsimple name hname rfl
    rw [registeredName] at hrenamed ⊢
    cases hfound : standsFor? schema name with
    | none => exact absurd (by rw [hfound, Option.getD_none]) hrenamed
    | some target =>
        exact mem_givenNames_of_standsFor? (helements.plain name hname) hsimple hfound
  intro name hname hrenamed
  have hpair := hgiven name hname hrenamed
  constructor
  · intro hsimple
    exact hrenamed (helements.types _ hpair (List.mem_append_left _ hsimple)).symm
  · intro other hother hne hsame
    by_cases hkept : registeredName schema other = other
    · -- The other type is called like the element that gives this one its name.
      have hcalled : registeredName schema name ∈ (complexTypesOf schema).map Prod.fst := by
        rwa [← hsame, hkept]
      exact hrenamed (helements.types _ hpair (List.mem_append_right _ hcalled)).symm
    · exact hne (helements.elements _ (hgiven other hother hkept) _ hpair hsame)

/-- The names of the types of a schema with complex types, each behind the prefix of the schema. -/
theorem names_types (hroot : schema.child? "element" = some rootElement)
    (hcomplex : complexTypesOf schema ≠ [])
    (hnamed : ∀ simple ∈ schema.childrenNamed "simpleType", (simple.attribute? "name").isSome) :
    (types schema source home).map TypeDef.name =
      (topLevelNames schema "simpleType" ++
        ((complexTypesOf schema).map Prod.fst).map (registeredName schema)).map
          (namePrefix schema source home ++ ·) := by
  have hsimple : topLevelNames schema "simpleType" = (schema.childrenNamed "simpleType").map
      (simpleName (!(complexTypesOf schema).isEmpty)
        ((rootElement.attribute? "name").getD source)) := by
    rw [topLevelNames, ← List.filterMap_eq_map]
    apply List.filterMap_congr
    intro simple hmem
    obtain ⟨name, hname⟩ := Option.isSome_iff_exists.mp (hnamed simple hmem)
    rw [Function.comp_apply, simpleName, hname, if_pos (by simpa using hcomplex)]
    rfl
  rw [types_eq_append hroot, hsimple, List.map_append, List.map_append]
  simp only [List.map_map, Function.comp_def, name_emittedSimpleType, name_emittedType hroot]

theorem names_types_of_simple (hroot : schema.child? "element" = some rootElement)
    (hcomplex : complexTypesOf schema = []) :
    (types schema source home).map TypeDef.name =
      List.replicate (schema.childrenNamed "simpleType").length
        (namePrefix schema source home ++ (rootElement.attribute? "name").getD source) := by
  rw [types_eq_append hroot, hcomplex, List.map_nil, List.append_nil, List.map_map,
    ← List.map_const']
  apply List.map_congr_left
  intro simple _
  rw [Function.comp_apply, name_emittedSimpleType, hcomplex]
  rfl

theorem types_of_no_element (hroot : schema.child? "element" = none) :
    types schema source home = [] := by
  rw [types, hroot]

/-- Suppose that the types of a schema are known by distinct names.  With complex types, all of its
types are registered under distinct names unless a complex type is renamed to the name of another
type, and none is where the elements are named apart.  Without complex types, all simple types are
registered under the name of the first element, so that only one of them is kept. -/
theorem types_taken_of_distinct_names {schema : Element} (source home : String)
    (hdistinct : HasDistinctNames schema) :
    (complexTypesOf schema ≠ [] → RenamesApart schema →
      AreTakenAll (types schema source home)) ∧
    (NamesElementsApart schema → RenamesApart schema) ∧
    (complexTypesOf schema = [] → (AreTakenAll (types schema source home) ↔
      schema.child? "element" = none ∨ (schema.childrenNamed "simpleType").length ≤ 1)) := by
  rw [areTakenAll_iff]
  have helements := renamesApart_of_namesElementsApart hdistinct
  cases hroot : schema.child? "element" with
  | none => simpa [types_of_no_element hroot] using helements
  | some rootElement =>
      refine ⟨?_, helements, ?_⟩
      · intro hcomplex hapart
        rw [names_types hroot hcomplex hdistinct.1]
        apply (nodup_registeredNames hdistinct hapart).map
        exact fun left right hsame => (String.append_right_inj _).mp hsame
      · intro hcomplex
        rw [names_types_of_simple hroot hcomplex, List.nodup_replicate]
        simp

theorem areTakenAll_siteSchema : HasDistinctNames siteSchema ∧ NamesElementsApart siteSchema ∧
    RenamesApart siteSchema ∧ AreTakenAll (types siteSchema "site" "polycom") := by
  have hdistinct : HasDistinctNames siteSchema := by decide +kernel
  have hcomplex : complexTypesOf siteSchema ≠ [] := by decide +kernel
  have helements : NamesElementsApart siteSchema := by
    constructor
    · decide +kernel
    · decide +kernel
    · decide +kernel
  obtain ⟨htaken, hapart, -⟩ := types_taken_of_distinct_names "site" "polycom" hdistinct
  exact ⟨hdistinct, helements, hapart helements, htaken hcomplex (hapart helements)⟩

/-- A schema with two simple types and no complex type. -/
def levelSchema : Element :=
  ⟨"xs:schema", [("targetNamespace", "urn:polycom:room")],
    [⟨"xs:element", [("name", "plcm-room")], [], ""⟩,
     ⟨"xs:simpleType", [("name", "level")], [], ""⟩,
     ⟨"xs:simpleType", [("name", "size")], [], ""⟩], ""⟩

/-- A schema with a type that is called like an element declared with another type. -/
def roomSchema : Element :=
  ⟨"xs:schema", [("targetNamespace", "urn:polycom:room")],
    [⟨"xs:element", [("name", "plcm-room"), ("type", "tns:RoomType")], [], ""⟩,
     ⟨"xs:complexType", [("name", "RoomType")], [], ""⟩,
     ⟨"xs:complexType", [("name", "plcm-room")], [], ""⟩], ""⟩

/-- Two simple types share the name of the first element, and two complex types that of an
element. -/
theorem not_areTakenAll_levelSchema_roomSchema :
    (HasDistinctNames levelSchema ∧ ¬ AreTakenAll (types levelSchema "room" "polycom")) ∧
    (HasDistinctNames roomSchema ∧ ¬ AreTakenAll (types roomSchema "room" "polycom")) := by
  rw [areTakenAll_iff, areTakenAll_iff]
  decide +kernel

end RestModel.Schema

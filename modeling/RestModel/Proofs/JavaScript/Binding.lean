import Mathlib.Data.List.Nodup
import RestModel.Proofs.CamelCase
import RestModel.Proofs.Compilation.Reordering
import RestModel.Proofs.JavaScript.Record

/-!
# What a model binds

The function of a model sets some properties under fixed names, and a constant, a setter and a
getter for each member of its record.  All names stand side by side on the model, and those of the
members are in camel case, so that one can replace another.  This module says for which members none
does.
-/

namespace RestModel.JavaScript

open Naming

/-! ## Assignments -/

/-- A property of a model and the text of the value it is set to. -/
structure Assignment where
  name : String
  value : String

/-- The statement that sets a property. -/
def Assignment.text (assignment : Assignment) : String :=
  line ("  this." ++ assignment.name ++ " = " ++ assignment.value ++ ";")

/-- The properties that tie a model to the constructor of its record. -/
def payloadAssignments (name : String) (constructor : Constructor) : List Assignment := [
  ⟨"payloadType", name⟩,
  ⟨"setData", block [
    line ("function(" ++ parameters constructor ++ ")"),
    line "  \x7b",
    line "    var obj = \x7b\x7d;",
    line "    this.payloadType.apply(obj, arguments);",
    line "    this.set(obj);",
    "  \x7d"]⟩]

/-- The properties of a model in four groups: the fixed ones, then the constants, the setters and
the getters of the members. -/
def assignments (record : Record) (model : Model) : List (List Assignment) := [
  [⟨"url", "\"" ++ model.url ++ "\""⟩, ⟨"returnType", "\"" ++ record.name.original ++ "\""⟩] ++
    (record.constructor.map (payloadAssignments record.name.camelCase)).getD [],
  model.accessors.map (fun accessor => ⟨accessor.attrName, "\"" ++ accessor.member ++ "\""⟩),
  model.accessors.map (fun accessor => ⟨accessor.setter,
    "function(val) \x7b this.set(this." ++ accessor.attrName ++ ", val); \x7d"⟩),
  model.accessors.map (fun accessor => ⟨accessor.getter,
    "function() \x7b return this.get(this." ++ accessor.attrName ++ "); \x7d"⟩)]

/-- The statements that set the properties of a model, each group in front of an empty line. -/
def assignmentText (record : Record) (model : Model) : String :=
  block ((assignments record model).map (fun group =>
    block (group.map Assignment.text) ++ line ""))

theorem text_payloadAssignments (name : String) (constructor : Constructor) :
    block ((payloadAssignments name constructor).map Assignment.text) =
      payloadStatements name constructor := by
  simp only [payloadAssignments, payloadStatements, Assignment.text, List.map_cons, List.map_nil,
    block_cons, block_nil, line, String.append_assoc, String.append_empty]
  rfl

/-- Between its beginning and its end, the function of a model sets properties. -/
theorem modelFunction_eq (record : Record) (model : Model) (client : ClientOptions) :
    modelFunction record model client = block [
      functionHead (record.name.camelCase ++ "Model") client.modelBase, argumentCopies,
      assignmentText record model, functionTail] := by
  have hurl : Assignment.text ⟨"url", "\"" ++ model.url ++ "\""⟩ =
      line ("  this.url = \"" ++ model.url ++ "\";") := by
    simp only [Assignment.text, String.append_assoc]
    rfl
  have hreturn : Assignment.text ⟨"returnType", "\"" ++ record.name.original ++ "\""⟩ =
      line ("  this.returnType = \"" ++ record.name.original ++ "\";") := by
    simp only [Assignment.text, String.append_assoc]
    rfl
  have hconstants : ∀ accessor : Accessor,
      Assignment.text ⟨accessor.attrName, "\"" ++ accessor.member ++ "\""⟩ =
        attrNameLine accessor := by
    intro accessor
    simp only [Assignment.text, attrNameLine, String.append_assoc]
    rfl
  have hsetters : ∀ accessor : Accessor,
      Assignment.text ⟨accessor.setter,
        "function(val) \x7b this.set(this." ++ accessor.attrName ++ ", val); \x7d"⟩ =
          setterLine accessor := by
    intro accessor
    simp only [Assignment.text, setterLine, String.append_assoc]
    rfl
  have hgetters : ∀ accessor : Accessor,
      Assignment.text ⟨accessor.getter,
        "function() \x7b return this.get(this." ++ accessor.attrName ++ "); \x7d"⟩ =
          getterLine accessor := by
    intro accessor
    simp only [Assignment.text, getterLine, String.append_assoc]
    rfl
  have hpayload : block (((record.constructor.map
      (payloadAssignments record.name.camelCase)).getD []).map Assignment.text) =
        (record.constructor.map (payloadStatements record.name.camelCase)).getD "" := by
    cases record.constructor with
    | none => rfl
    | some constructor => exact text_payloadAssignments record.name.camelCase constructor
  simp only [modelFunction, assignmentText, assignments, List.map_cons, List.map_nil, List.map_map,
    List.map_append, Function.comp_def, block_append, block_cons, block_nil, hurl, hreturn,
    hconstants, hsetters, hgetters, hpayload]
  simp only [String.append_assoc, String.append_empty]

/-- No property of a model replaces another one, and no parameter of its constructor does. -/
structure BindsOnce (record : Record) (model : Model) : Prop where
  properties : ((assignments record model).flatten.map Assignment.name).Nodup
  parameters : ∀ constructor ∈ record.constructor, (constructor.fields.map Field.param).Nodup

/-! ## Names of properties -/

/-- The names under which a model has properties of its own. -/
def fixedNames (hasPayload : Bool) : List String :=
  ["url", "returnType"] ++ if hasPayload then ["payloadType", "setData"] else []

/-- The names of all properties of a model with these members. -/
def propertyNames (hasPayload : Bool) (members : List String) : List String :=
  fixedNames hasPayload ++ (members.map (camelCase · ++ "AttrName") ++
    (members.map ("set" ++ accessorStem ·) ++ members.map ("get" ++ accessorStem ·)))

theorem names_assignments {record : Record} {model : Model} {members : List String}
    (haccessors : model.accessors = members.map .ofMember) :
    (assignments record model).flatten.map Assignment.name =
      propertyNames record.constructor.isSome members := by
  cases hconstructor : record.constructor <;>
    simp [assignments, payloadAssignments, propertyNames, fixedNames, hconstructor, haccessors,
      Function.comp_def, Accessor.ofMember, camelCase_get, camelCase_set]

theorem mem_fixedNames {hasPayload : Bool} {name : String} (hmem : name ∈ fixedNames hasPayload) :
    name ∈ ["url", "returnType", "payloadType", "setData"] := by
  cases hasPayload with
  | true => exact hmem
  | false => exact List.mem_append_left ["payloadType", "setData"] hmem

theorem fixedNames_ne_constant {hasPayload : Bool} {name : String}
    (hmem : name ∈ fixedNames hasPayload) (front : String) : name ≠ front ++ "AttrName" := by
  have hends : ∀ name ∈ ["url", "returnType", "payloadType", "setData"],
      ¬"AttrName".toList <:+ name.toList := by decide
  rintro rfl
  exact hends _ (mem_fixedNames hmem) ⟨front.toList, String.toList_append.symm⟩

theorem fixedNames_ne_getter {hasPayload : Bool} {name : String}
    (hmem : name ∈ fixedNames hasPayload) (stem : String) : name ≠ "get" ++ stem := by
  have hstarts : ∀ name ∈ ["url", "returnType", "payloadType", "setData"],
      ¬"get".toList <+: name.toList := by decide
  rintro rfl
  exact hstarts _ (mem_fixedNames hmem) ⟨stem.toList, String.toList_append.symm⟩

theorem setter_mem_fixedNames_iff {hasPayload : Bool} {stem : String} :
    "set" ++ stem ∈ fixedNames hasPayload ↔ hasPayload = true ∧ stem = "Data" := by
  have hstarts : ∀ name ∈ ["url", "returnType", "payloadType", "setData"],
      "set".toList <+: name.toList → name = "set" ++ "Data" := by decide
  constructor
  · intro hmem
    have hdata := hstarts _ (mem_fixedNames hmem) ⟨stem.toList, String.toList_append.symm⟩
    obtain rfl := (String.append_right_inj "set").mp hdata
    cases hasPayload with
    | true => exact ⟨rfl, rfl⟩
    | false => exact absurd hmem (by decide)
  · rintro ⟨rfl, rfl⟩
    decide

theorem setter_ne_getter (left right : String) : "set" ++ left ≠ "get" ++ right := by
  intro hsame
  have hchars := congrArg String.toList hsame
  simp at hchars

/-! ## Members -/

/-- Members that generated names keep apart. -/
structure KeepApart (members : List String) : Prop where
  /-- The members differ in camel case. -/
  fields : ∀ left ∈ members, ∀ right ∈ members, camelCase left = camelCase right → left = right
  /-- They differ in camel case with a capital. -/
  stems : ∀ left ∈ members, ∀ right ∈ members,
    accessorStem left = accessorStem right → left = right
  /-- No setter is the method that sets all members. -/
  data : ∀ member ∈ members, accessorStem member ≠ "Data"
  /-- No constant is the accessor of a member. -/
  constants : ∀ left ∈ members, ∀ right ∈ members, ∀ verb ∈ ["set", "get"],
    camelCase left ++ "AttrName" ≠ verb ++ accessorStem right

/-- Hyphenated names in lower case are kept apart, but for two: a member must not be called `data`,
and none may end like the name of a constant. -/
theorem keepApart_of_isHyphenated {members : List String}
    (hwords : ∀ member ∈ members, IsHyphenated member) (hdata : "data" ∉ members)
    (hconstant : ∀ member ∈ members, ¬"attr-name".toList <:+ member.toList) :
    KeepApart members where
  fields left hleft right hright := camelCase_injOn (hwords left hleft) (hwords right hright)
  stems left hleft right hright := accessorStem_injOn (hwords left hleft) (hwords right hright)
  data member hmember hsame := by
    have hchars : '-' :: member.toList = '-' :: "data".toList := by
      rw [← hyphenChars_accessorStem (hwords member hmember), hsame]
      decide
    obtain rfl := String.toList_injective (List.cons.inj hchars).2
    exact hdata hmember
  constants left hleft right hright verb hverb hsame := by
    have hverbs : ∀ verb ∈ ["set", "get"],
        hyphenChars verb.toList = verb.toList ∧ '-' ∉ verb.toList := by decide
    obtain ⟨hverbChars, hhyphen⟩ := hverbs verb hverb
    have hchars :
        left.toList ++ '-' :: "attr-name".toList = verb.toList ++ '-' :: right.toList := by
      have hsides := congrArg (hyphenChars ·.toList) hsame
      simp only [String.toList_append, hyphenChars_append, hverbChars,
        hyphenChars_camelCase (hwords left hleft),
        hyphenChars_accessorStem (hwords right hright)] at hsides
      exact hsides
    apply hconstant right hright
    rcases List.append_eq_append_iff.mp hchars with
      ⟨middle, hfront, hback⟩ | ⟨middle, hfront, hback⟩
    · cases middle with
      | nil => exact (List.cons.inj hback).2 ▸ List.suffix_rfl
      | cons first rest =>
          obtain rfl := (List.cons.inj hback).1
          exact absurd (hfront ▸ List.mem_append_right _ List.mem_cons_self) hhyphen
    · cases middle with
      | nil => exact (List.cons.inj hback).2 ▸ List.suffix_rfl
      | cons first rest =>
          have hends : right.toList = rest ++ '-' :: "attr-name".toList := (List.cons.inj hback).2
          exact ⟨rest ++ ['-'], (List.append_cons rest '-' _).symm.trans hends.symm⟩

theorem nodup_propertyNames_iff {members : List String} (hnodup : members.Nodup) :
    (propertyNames (!members.isEmpty) members).Nodup ↔ KeepApart members := by
  rw [propertyNames, List.nodup_append, List.nodup_append, List.nodup_append,
    List.nodup_map_iff_inj_on hnodup, List.nodup_map_iff_inj_on hnodup,
    List.nodup_map_iff_inj_on hnodup]
  simp only [String.append_left_inj, String.append_right_inj]
  constructor
  · rintro ⟨-, ⟨hfields, ⟨hstems, -, -⟩, hconstants⟩, hfixed⟩
    refine ⟨hfields, hstems, ?_, ?_⟩
    · intro member hmember hdata
      have hpayload : (!members.isEmpty) = true := by
        simpa using List.ne_nil_of_mem hmember
      exact hfixed _ (setter_mem_fixedNames_iff.mpr ⟨hpayload, hdata⟩) _
        (List.mem_append_right _ (List.mem_append_left _ (List.mem_map_of_mem hmember))) rfl
    · intro left hleft right hright verb hverb
      refine hconstants _ (List.mem_map_of_mem hleft) _ ?_
      rcases List.mem_pair.mp hverb with rfl | rfl
      · exact List.mem_append_left _ (List.mem_map_of_mem hright)
      · exact List.mem_append_right _ (List.mem_map_of_mem hright)
  · intro hapart
    refine ⟨by cases members.isEmpty <;> decide,
      ⟨hapart.fields, ⟨hapart.stems, hapart.stems, ?_⟩, ?_⟩, ?_⟩
    · intro setter hsetter getter hgetter
      obtain ⟨left, -, rfl⟩ := List.mem_map.mp hsetter
      obtain ⟨right, -, rfl⟩ := List.mem_map.mp hgetter
      exact setter_ne_getter _ _
    · intro constant hconstant accessor haccessor
      obtain ⟨left, hleft, rfl⟩ := List.mem_map.mp hconstant
      rcases List.mem_append.mp haccessor with hsetter | hgetter
      · obtain ⟨right, hright, rfl⟩ := List.mem_map.mp hsetter
        exact hapart.constants left hleft right hright "set" (by simp)
      · obtain ⟨right, hright, rfl⟩ := List.mem_map.mp hgetter
        exact hapart.constants left hleft right hright "get" (by simp)
    · intro name hname other hother
      rcases List.mem_append.mp hother with hconstant | haccessor
      · obtain ⟨member, -, rfl⟩ := List.mem_map.mp hconstant
        exact fixedNames_ne_constant hname _
      · rcases List.mem_append.mp haccessor with hsetter | hgetter
        · obtain ⟨member, hmember, rfl⟩ := List.mem_map.mp hsetter
          rintro rfl
          exact hapart.data member hmember (setter_mem_fixedNames_iff.mp hname).2
        · obtain ⟨member, -, rfl⟩ := List.mem_map.mp hgetter
          exact fixedNames_ne_getter hname _

theorem nodup_params_iff {registry : Registry} {type : TypeDef} :
    ((Constructor.ofType registry type).fields.map Field.param).Nodup ↔
      ∀ left ∈ type.members.keys, ∀ right ∈ type.members.keys,
        camelCase left = camelCase right → left = right := by
  have hparams : (Constructor.ofType registry type).fields.map Field.param =
      type.members.keys.map (camelCase · ++ "Param") := by
    simp [Constructor.ofType, OrderedMap.keys, Field.ofMember, Function.comp_def]
  rw [hparams, List.nodup_map_iff_inj_on type.members.nodup_keys]
  simp only [String.append_left_inj]

/-- The text of a model sets the properties of the model.  No property and no parameter replaces
another one exactly if generated names keep the members of the type apart. -/
theorem bindsOnce_iff_keepApart {registry : Registry} {readMethod : String} {record : Record}
    {model : Model} (hmem : record ∈ allRecords (.ofRegistry registry readMethod))
    (hmodel : record.model = some model) :
    (∀ client, ∃ front back,
      modelText? record client = some (front ++ assignmentText record model ++ back)) ∧
    ∃ type ∈ registry.types, record = .ofType registry readMethod type ∧
      (BindsOnce record model ↔ KeepApart type.members.keys) := by
  constructor
  · intro client
    rw [modelText?, hmodel, Option.map_some]
    refine ⟨block [banner record.name.camelCase model.paths,
        ((constructorText? record false).map line).getD "",
        functionHead (record.name.camelCase ++ "Model") client.modelBase, argumentCopies],
      block [functionTail, collectionFunctions record client], congrArg some ?_⟩
    simp only [modelFunction_eq, block_cons, block_nil, String.append_assoc, String.append_empty]
  · obtain ⟨type, htype, rfl⟩ := exists_ofType_of_model hmem hmodel
    have haccessors : model.accessors = type.members.keys.map .ofMember := by
      obtain ⟨url, -, rfl⟩ := Option.map_eq_some_iff.mp hmodel
      rfl
    have hpayload : (Record.ofType registry readMethod type).constructor.isSome =
        !type.members.keys.isEmpty := by
      rw [Record.ofType, Constructor.ofType?, OrderedMap.keys, List.isEmpty_map]
      cases hempty : type.members.isEmpty <;> exact congrArg (!·) hempty.symm
    have hproperties : ((assignments (.ofType registry readMethod type) model).flatten.map
        Assignment.name).Nodup ↔ KeepApart type.members.keys := by
      rw [names_assignments haccessors, hpayload, nodup_propertyNames_iff type.members.nodup_keys]
    refine ⟨type, htype, rfl, ?_⟩
    constructor
    · exact fun hbinds => hproperties.mp hbinds.properties
    · intro hapart
      refine ⟨hproperties.mpr hapart, ?_⟩
      intro constructor hconstructor
      rw [Option.mem_def, Record.ofType, Constructor.ofType?] at hconstructor
      split at hconstructor
      · exact absurd hconstructor (by simp)
      · obtain rfl := Option.some.inj hconstructor
        exact nodup_params_iff.mpr hapart.fields

/-! ## Profiles -/

/-- What a schema of profiles with these members, and a path where profiles are read, are compiled
to. -/
def profiles (members : List String) : Compilation :=
  .ofDocuments .default [
    ⟨"wadl/profile.xsd", "profile", "", .schema, Compilation.schemaOf [
      ("plcm-profile", none, members.map (·, "xs:string"))]⟩,
    ⟨"wadl/profiles.wadl", "profiles", "", .resource, Compilation.readsOf [
      ("profiles/\x7bid\x7d", "plcm-profile")]⟩]

/-- Hyphenated members are kept apart. -/
theorem bindsOnce_profiles :
    ∃ record ∈ allRecords (profiles ["user-id", "name"]).interface,
      ∃ model, record.model = some model ∧
        model.accessors.map Accessor.getter = ["getUserId", "getName"] ∧
        BindsOnce record model := by
  have hmodels : (allRecords (profiles ["user-id", "name"]).interface).map
      (·.model.map (·.accessors.map Accessor.getter)) = [some ["getUserId", "getName"]] := by
    decide +kernel
  have hmembers : ∀ type ∈ (profiles ["user-id", "name"]).registry.types,
      type.members.keys = ["user-id", "name"] := by decide +kernel
  obtain ⟨record, hrecord, hgetters⟩ := List.map_eq_singleton_iff.mp hmodels
  obtain ⟨model, hmodel, hnames⟩ := Option.map_eq_some_iff.mp hgetters
  have hmem : record ∈ allRecords (profiles ["user-id", "name"]).interface :=
    hrecord ▸ List.mem_singleton_self record
  obtain ⟨-, type, htype, -, hbinds⟩ := bindsOnce_iff_keepApart hmem hmodel
  refine ⟨record, hmem, model, hmodel, hnames, hbinds.mpr ?_⟩
  rw [hmembers type htype]
  exact keepApart_of_isHyphenated (by decide) (by decide) (by decide)

/-- A member called `data` takes the place of the method that sets all members, and two members that
differ by a hyphen share their parameter, constant and accessors. -/
theorem not_bindsOnce_profiles :
    ∃ record ∈ allRecords (profiles ["data", "user-id", "userId"]).interface,
      ∃ model, record.model = some model ∧
        (record.constructor.map (·.fields.map Field.param)) =
          some ["dataParam", "userIdParam", "userIdParam"] ∧
        (assignments record model).map (·.map Assignment.name) = [
          ["url", "returnType", "payloadType", "setData"],
          ["dataAttrName", "userIdAttrName", "userIdAttrName"],
          ["setData", "setUserId", "setUserId"],
          ["getData", "getUserId", "getUserId"]] ∧
        ¬BindsOnce record model := by
  have hmodels : (allRecords (profiles ["data", "user-id", "userId"]).interface).map
      (fun record => (record.constructor.map (·.fields.map Field.param),
        record.model.map (fun model => (assignments record model).map (·.map Assignment.name)))) =
      [(some ["dataParam", "userIdParam", "userIdParam"], some [
        ["url", "returnType", "payloadType", "setData"],
        ["dataAttrName", "userIdAttrName", "userIdAttrName"],
        ["setData", "setUserId", "setUserId"],
        ["getData", "getUserId", "getUserId"]])] := by
    decide +kernel
  obtain ⟨record, hrecord, hnames⟩ := List.map_eq_singleton_iff.mp hmodels
  obtain ⟨hparams, hassigned⟩ := Prod.mk.inj hnames
  obtain ⟨model, hmodel, hgroups⟩ := Option.map_eq_some_iff.mp hassigned
  refine ⟨record, hrecord ▸ List.mem_singleton_self record, model, hmodel, hparams, hgroups, ?_⟩
  intro hbinds
  have hproperties := hbinds.properties
  rw [List.map_flatten, hgroups] at hproperties
  exact absurd hproperties (by decide)

end RestModel.JavaScript

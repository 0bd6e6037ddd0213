import RestModel.Proofs.Descriptor.OfRegistry
import RestModel.Proofs.Lists

/-!
# The dependencies of a constructor

A constructor links the base of its type and the types that the members are resolved to.  However
often members mention a type, it gets one link, and none if it is the type itself, the base, or
unknown to the registry.  Types without members are linked apart from the others.
-/

namespace RestModel

namespace TypeDef

/-- The names that the members of a type are resolved to, each once and in the order in which they
first occur. -/
def memberIds (type : TypeDef) : List String :=
  (type.members.values.filterMap TypeRef.id?).eraseDups

/-- The base of a type is found under the name that its base reference is resolved to, and it is no
placeholder. -/
def HasBase (registry : Registry) (type base : TypeDef) : Prop :=
  ∃ id raw, type.base = some (.named (.resolved id raw)) ∧ registry.lookup id = some base ∧
    base.isPlaceholder = false

/-- A dependency of a type is found under a name that some member is resolved to, and it is neither
the type itself nor its base. -/
structure DependsOn (registry : Registry) (type target : TypeDef) : Prop where
  mentioned : ∃ member raw, (member, .resolved target.name raw) ∈ type.members.entries
  found : registry.lookup target.name = some target
  notSelf : target.name ≠ type.name
  notBase : ∀ base, type.HasBase registry base → target.name ≠ base.name

theorem mem_memberIds {type : TypeDef} {id : String} : id ∈ type.memberIds ↔
    ∃ member raw, (member, .resolved id raw) ∈ type.members.entries := by
  rw [memberIds, List.mem_eraseDups, List.mem_filterMap]
  constructor
  · rintro ⟨ref, href, hid⟩
    obtain ⟨⟨member, other⟩, hentry, hsame⟩ := List.mem_map.mp href
    obtain rfl : other = ref := hsame
    cases other with
    | resolved target raw =>
        injection hid with hid
        exact ⟨member, raw, hid ▸ hentry⟩
    | unresolved raw => exact absurd hid (by simp [TypeRef.id?])
    | literal value => exact absurd hid (by simp [TypeRef.id?])
  · rintro ⟨member, raw, hentry⟩
    exact ⟨_, List.mem_map_of_mem hentry, rfl⟩

end TypeDef

namespace Constructor

variable {registry : Registry} {type : TypeDef}

theorem hasBase_iff {base : TypeDef} :
    type.HasBase registry base ↔ baseOf registry type = some base := by
  constructor
  · rintro ⟨id, raw, hbase, hfound, hplaceholder⟩
    rw [baseOf, hbase]
    exact Option.filter_eq_some_iff.mpr ⟨hfound, by rw [hplaceholder]; rfl⟩
  · intro hbase
    rw [baseOf] at hbase
    split at hbase
    · next target hnamed =>
      obtain ⟨hfound, hplaceholder⟩ := Option.filter_eq_some_iff.mp hbase
      cases target with
      | resolved id raw => exact ⟨id, raw, hnamed, hfound, by simpa using hplaceholder⟩
      | unresolved raw => exact absurd hfound (by simp [TypeRef.id?])
      | literal value => exact absurd hfound (by simp [TypeRef.id?])
    · exact absurd hbase (by simp)

/-- Skipping names that were seen amounts to leaving out repetitions first and the names given at
the beginning afterwards; only then is the registry asked. -/
theorem requiredTypes_eq_filterMap (registry : Registry) (seen : List String)
    (refs : List TypeRef) :
    requiredTypes registry seen refs =
      ((refs.filterMap TypeRef.id?).eraseDups.filter (fun id => !seen.contains id)).filterMap
        registry.lookup := by
  induction refs generalizing seen with
  | nil => rfl
  | cons ref rest ih =>
      rw [requiredTypes, List.filterMap_cons]
      cases ref.id? with
      | none => exact ih seen
      | some id =>
          simp only [List.eraseDups_cons, eraseDups_filter, List.filter_cons, List.filter_filter]
          cases hseen : seen.contains id with
          | true =>
              -- A name that was seen is left out, so its repetitions need no care.
              have hkept : ∀ other : String, (!seen.contains other && !(other == id)) =
                  !seen.contains other := by
                intro other
                by_cases hsame : other = id
                · rw [hsame, hseen]
                  rfl
                · simp [hsame]
              simp only [hkept, if_true, Bool.not_true, Bool.false_eq_true, if_false, ih]
          | false =>
              have hkept : ∀ other : String, (!seen.contains other && !(other == id)) =
                  !(id :: seen).contains other := by
                intro other
                rw [List.contains_cons, Bool.not_or, Bool.and_comm]
              simp only [hkept, Bool.not_false, Bool.false_eq_true, if_true, if_false,
                List.filterMap_cons, ih]
              cases registry.lookup id <;> rfl

/-- The names that the registry is asked for: those that members are resolved to, without the name
of the type and that of its base. -/
def dependencyIds (registry : Registry) (type : TypeDef) : List String :=
  type.memberIds.filter (fun id =>
    !(type.name :: ((baseOf registry type).map TypeDef.name).toList).contains id)

theorem required_eq_filterMap (registry : Registry) (type : TypeDef) :
    required registry type = (dependencyIds registry type).filterMap registry.lookup :=
  requiredTypes_eq_filterMap registry _ _

theorem mem_dependencyIds {id : String} : id ∈ dependencyIds registry type ↔
    id ∈ type.memberIds ∧ id ≠ type.name ∧
      ∀ base, type.HasBase registry base → id ≠ base.name := by
  have hbases : id ∈ ((baseOf registry type).map TypeDef.name).toList ↔
      ∃ base, type.HasBase registry base ∧ base.name = id := by
    simp only [Option.mem_toList, Option.map_eq_some_iff, hasBase_iff]
  rw [dependencyIds, List.mem_filter, Bool.not_eq_true', List.contains_eq_mem,
    decide_eq_false_iff_not, List.mem_cons, hbases, not_or, not_exists]
  simp only [not_and, ne_comm]

theorem mem_required_iff {target : TypeDef} :
    target ∈ required registry type ↔ type.DependsOn registry target := by
  rw [required_eq_filterMap, List.mem_filterMap]
  constructor
  · rintro ⟨id, hid, hfound⟩
    obtain rfl : target.name = id := (Registry.mem_allTypes_of_lookup_eq_some hfound).2
    obtain ⟨hmentioned, hself, hbase⟩ := mem_dependencyIds.mp hid
    exact ⟨TypeDef.mem_memberIds.mp hmentioned, hfound, hself, hbase⟩
  · intro hdepends
    have hmentioned := TypeDef.mem_memberIds.mpr hdepends.mentioned
    exact ⟨target.name, mem_dependencyIds.mpr ⟨hmentioned, hdepends.notSelf, hdepends.notBase⟩,
      hdepends.found⟩

/-- The types found under some names have those of the names under which something is found. -/
theorem map_name_filterMap_lookup (registry : Registry) (ids : List String) :
    (ids.filterMap registry.lookup).map TypeDef.name =
      ids.filter (fun id => (registry.lookup id).isSome) := by
  have hname : (fun id => (registry.lookup id).map TypeDef.name) =
      Option.guard (fun id => (registry.lookup id).isSome) := by
    funext id
    cases hfound : registry.lookup id with
    | none => simp [Option.guard, hfound]
    | some target =>
        simp [Option.guard, hfound, (Registry.mem_allTypes_of_lookup_eq_some hfound).2]
  rw [List.map_filterMap, hname, List.filterMap_eq_filter]

theorem sublist_map_name_required (registry : Registry) (type : TypeDef) :
    ((required registry type).map TypeDef.name).Sublist type.memberIds := by
  rw [required_eq_filterMap, map_name_filterMap_lookup]
  exact List.filter_sublist.trans List.filter_sublist

/-! ## The constructor of a type -/

/-- A constructor links what its type depends on.  Its fields are the members in order.  Its base is
that of the type.  The dependencies, each once and in the order in which members first mention them,
are divided into those that have members and those that do not. -/
structure Links (registry : Registry) (type : TypeDef) (constructor : Constructor) : Prop where
  fields : constructor.fields.map (·.name.original) = type.members.keys
  base : ∀ link, constructor.base = some link ↔
    ∃ base, type.HasBase registry base ∧ link = .ofType base
  dependencies : ∃ targets : List TypeDef,
    (∀ target, target ∈ targets ↔ type.DependsOn registry target) ∧
    (targets.map TypeDef.name).Sublist type.memberIds ∧
    constructor.requires = (targets.filter (!·.members.isEmpty)).map .ofType ∧
    constructor.memberlessRequires = (targets.filter (·.members.isEmpty)).map .ofType

theorem links_ofType (registry : Registry) (type : TypeDef) :
    Links registry type (ofType registry type) where
  fields := by
    rw [ofType, List.map_map]
    rfl
  base := by
    intro link
    simp only [hasBase_iff, ofType, Option.map_eq_some_iff]
    exact exists_congr (fun base => and_congr_right' eq_comm)
  dependencies := ⟨required registry type, fun _ => mem_required_iff,
    sublist_map_name_required registry type, rfl, rfl⟩

end Constructor

/-- A record has the constructor of a type, provided that the type has members. -/
structure Record.Constructs (registry : Registry) (type : TypeDef) (record : Record) : Prop where
  name : record.name = .ofName type.name
  isSome : record.constructor.isSome = !type.members.isEmpty
  links : ∀ constructor, record.constructor = some constructor →
    constructor.Links registry type

theorem Record.constructs_of_constructor {registry : Registry} {type : TypeDef} {record : Record}
    (hname : record.name = .ofName type.name)
    (hconstructor : record.constructor = Constructor.ofType? registry type) :
    record.Constructs registry type where
  name := hname
  isSome := by
    rw [hconstructor, Constructor.ofType?]
    cases type.members.isEmpty <;> rfl
  links := by
    intro constructor hsome
    rw [hconstructor, Constructor.ofType?] at hsome
    split at hsome
    · exact absurd hsome (by simp)
    · injection hsome with hsame
      exact hsame ▸ Constructor.links_ofType registry type

/-- The types of a registry are described in order, and each that is no enumeration by a record with
its constructor.  A list type folded into it has a record with its constructor in the collection. -/
theorem Interface.constructs_ofRegistry (registry : Registry) (readMethod : String) :
    List.Forall₂ (fun type descriptor => type.isEnumeration = false →
        ∃ record, descriptor = .record record ∧ record.Constructs registry type ∧
          ∀ list, type.collection = some list → ∃ collection,
            record.collection = some collection ∧ collection.list.Constructs registry list)
      registry.types (ofRegistry registry readMethod).types := by
  rw [ofRegistry, List.forall₂_map_right_iff, List.forall₂_same]
  intro type _ hrecord
  refine ⟨.ofType registry readMethod type, ?_, Record.constructs_of_constructor rfl rfl, ?_⟩
  · rw [Descriptor.ofType, hrecord]
    rfl
  · intro list hlist
    exact ⟨_, congrArg (Option.map _) hlist, Record.constructs_of_constructor rfl rfl⟩

/-- A user extends a person.  Its members mention a role twice, the list of the roles, the user
itself, the person, a badge without members and a desk that is not registered. -/
def staffUser : TypeDef :=
  { TypeDef.named "plcm-user" "" "" with
    base := some (.named (.resolved "plcm-person" "plcm-person"))
    members := .ofList [
      ("role", .resolved "plcm-role" "plcm-role"), ("desk", .resolved "plcm-desk" "plcm-desk"),
      ("badge", .resolved "plcm-badge" "plcm-badge"), ("deputy", .resolved "plcm-user" "plcm-user"),
      ("roles", .resolved "plcm-role-list" "plcm-role-list"),
      ("second-role", .resolved "plcm-role" "plcm-role"),
      ("contact", .resolved "plcm-person" "plcm-person")] }

/-- The user with the types it depends on; the list of the roles is folded into the role. -/
def staffRegistry : Registry where
  types := [
    { TypeDef.named "plcm-role" "" "" with
      members := .ofList [("title", .unresolved "xs:string")]
      collection := some { TypeDef.named "plcm-role-list" "" "" with
        members := .ofList [("plcm-role", .resolved "plcm-role" "plcm-role")] } },
    TypeDef.named "plcm-person" "" "", TypeDef.named "plcm-badge" "" "", staffUser]
  nodup := by decide

example : (Constructor.ofType staffRegistry staffUser).base = some ⟨.ofName "plcm-person", ""⟩ ∧
    (Constructor.ofType staffRegistry staffUser).requires =
      [⟨.ofName "plcm-role", ""⟩, ⟨.ofName "plcm-role-list", ""⟩] ∧
    (Constructor.ofType staffRegistry staffUser).memberlessRequires =
      [⟨.ofName "plcm-badge", ""⟩] := by decide +kernel

end RestModel

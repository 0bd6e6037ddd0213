import RestModel.Descriptor.OfRegistry
import RestModel.Proofs.Registry.Resolution

/-!
# Constructors and folding

The constructor of a type depends on what the registry finds under a name, not on whether it finds
it among the registered or among the folded types.  Folding therefore changes no constructor.
-/

namespace RestModel

namespace Registry

variable {registry : Registry} {suffix readMethod : String}

/-- Two registries find the same types by name, except for the collections of these types. -/
def AgreesWith (left right : Registry) : Prop :=
  ∀ name, (left.lookup name).map TypeDef.unfolded = (right.lookup name).map TypeDef.unfolded

theorem lookup_map_unfolded (name : String) :
    (registry.lookup name).map TypeDef.unfolded =
      (registry.allTypes.map TypeDef.unfolded).find? (·.name == name) := by
  rw [lookup_eq_find?, List.find?_map]
  rfl

/-- Folding keeps what is found under a name. -/
theorem agreesWith_foldLists (hunfolded : registry.IsUnfolded) :
    (registry.foldLists suffix readMethod).AgreesWith registry := by
  intro name
  have hperm : ((registry.foldLists suffix readMethod).allTypes.map TypeDef.unfolded).Perm
      registry.types := unfolded_allTypes_foldLists hunfolded
  have htypes : registry.types.map TypeDef.unfolded = registry.types := by
    apply map_eq_self
    intro type hmem
    exact TypeDef.unfolded_eq_self (hunfolded type hmem)
  rw [lookup_map_unfolded, lookup_map_unfolded, allTypes_of_isUnfolded hunfolded, htypes]
  exact find?_name_perm hperm ((hperm.map TypeDef.name).symm.nodup registry.nodup)

end Registry

namespace Constructor

variable {left right : Registry}

theorem mem_allTypes_of_baseOf {registry : Registry} {type target : TypeDef}
    (hbase : baseOf registry type = some target) : target ∈ registry.allTypes := by
  rw [baseOf] at hbase
  split at hbase
  · obtain ⟨hfound, -⟩ := Option.filter_eq_some_iff.mp hbase
    obtain ⟨id, -, hlookup⟩ := Option.bind_eq_some_iff.mp hfound
    exact (Registry.mem_allTypes_of_lookup_eq_some hlookup).1
  · exact absurd hbase (by simp)

theorem mem_allTypes_of_mem_requiredTypes {registry : Registry} {seen : List String}
    {refs : List TypeRef} {target : TypeDef}
    (hmem : target ∈ requiredTypes registry seen refs) : target ∈ registry.allTypes := by
  induction refs generalizing seen with
  | nil => exact absurd hmem List.not_mem_nil
  | cons ref rest ih =>
      rw [requiredTypes] at hmem
      split at hmem
      · exact ih hmem
      · next id _ =>
        split at hmem
        · exact ih hmem
        · rcases List.mem_append.mp hmem with hfound | hlater
          · exact (Registry.mem_allTypes_of_lookup_eq_some (Option.mem_toList.mp hfound)).1
          · exact ih hlater

theorem baseOf_agrees (hagrees : left.AgreesWith right) (type : TypeDef) :
    (baseOf left type).map TypeDef.unfolded = (baseOf right type).map TypeDef.unfolded := by
  rw [baseOf, baseOf]
  split
  · next target _ =>
    cases target.id? with
    | none => rfl
    | some id =>
        have hfilter : ∀ found : Option TypeDef,
            (found.filter (!·.isPlaceholder)).map TypeDef.unfolded =
              (found.map TypeDef.unfolded).filter (!·.isPlaceholder) := by
          intro found
          rw [Option.filter_map]
          rfl
        rw [Option.bind_some, Option.bind_some, hfilter, hfilter, hagrees id]
  · rfl

theorem requiredTypes_agrees (hagrees : left.AgreesWith right) (seen : List String)
    (refs : List TypeRef) :
    (requiredTypes left seen refs).map TypeDef.unfolded =
      (requiredTypes right seen refs).map TypeDef.unfolded := by
  induction refs generalizing seen with
  | nil => rfl
  | cons ref rest ih =>
      rw [requiredTypes, requiredTypes]
      split
      · exact ih seen
      · next id _ =>
        split
        · exact ih seen
        · have hfound := congrArg Option.toList (hagrees id)
          rw [Option.toList_map, Option.toList_map] at hfound
          rw [List.map_append, List.map_append, ih, hfound]

theorem required_agrees (hagrees : left.AgreesWith right) (type : TypeDef) :
    (required left type).map TypeDef.unfolded = (required right type).map TypeDef.unfolded := by
  have hbase : (baseOf left type).map TypeDef.name = (baseOf right type).map TypeDef.name := by
    have hsame := congrArg (Option.map TypeDef.name) (baseOf_agrees hagrees type)
    rw [Option.map_map, Option.map_map] at hsame
    exact hsame
  rw [required, required, hbase]
  exact requiredTypes_agrees hagrees _ _

/-- Links do not mention collections, so they can be made from types without them. -/
theorem map_ofType_filter (types : List TypeDef) (keep : OrderedMap String TypeRef → Bool) :
    (types.filter (fun type => keep type.members)).map TypeLink.ofType =
      ((types.map TypeDef.unfolded).filter (fun type => keep type.members)).map
        TypeLink.ofType := by
  rw [List.filter_map, List.map_map]
  rfl

theorem ofType_agrees (hagrees : left.AgreesWith right) (type : TypeDef) :
    ofType left type = ofType right type := by
  have hbase : (baseOf left type).map TypeLink.ofType =
      (baseOf right type).map TypeLink.ofType := by
    have hsame := congrArg (Option.map TypeLink.ofType) (baseOf_agrees hagrees type)
    rw [Option.map_map, Option.map_map] at hsame
    exact hsame
  have hrequired := required_agrees hagrees type
  have hlinks : ∀ keep : OrderedMap String TypeRef → Bool,
      ((required left type).filter (fun other => keep other.members)).map TypeLink.ofType =
        ((required right type).filter (fun other => keep other.members)).map
          TypeLink.ofType := by
    intro keep
    rw [map_ofType_filter, hrequired, ← map_ofType_filter]
  rw [ofType, ofType, hbase]
  congr 1
  · exact hlinks (!·.isEmpty)
  · exact hlinks (·.isEmpty)

/-- Registries that find the same types give a type the same constructor. -/
theorem ofType?_agrees (hagrees : left.AgreesWith right) (type : TypeDef) :
    ofType? left type = ofType? right type := by
  rw [ofType?, ofType?, ofType_agrees hagrees]

end Constructor

end RestModel

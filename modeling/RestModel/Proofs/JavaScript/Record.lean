import RestModel.Proofs.JavaScript.Requires

/-!
# The records of an interface

Each registered type that is no enumeration is described by a record, and the list type folded into
it by another one.  The constructor of a record has one field for each member of its type.
-/

namespace RestModel

/-- The field that sets a member. -/
def Constructor.field? (constructor : Constructor) (member : String) : Option Field :=
  constructor.fields.find? (·.name.original == member)

theorem Constructor.field?_ofType (registry : Registry) (type : TypeDef) (member : String) :
    (Constructor.ofType registry type).field? member =
      (type.members.get? member).map (Field.ofMember type.docs member) := by
  have hsearch : ∀ entries : List (String × TypeRef),
      (entries.map (fun entry => Field.ofMember type.docs entry.1 entry.2)).find?
          (·.name.original == member) =
        (entries.lookup member).map (Field.ofMember type.docs member) := by
    intro entries
    induction entries with
    | nil => rfl
    | cons entry rest ih =>
        obtain ⟨name, ref⟩ := entry
        rw [List.map_cons, List.find?_cons, List.lookup_cons, ih]
        change (match name == member with | true => _ | false => _) = _
        by_cases hname : name = member
        · subst hname
          simp
        · simp [beq_false_of_ne hname, beq_false_of_ne (Ne.symm hname)]
  exact hsearch type.members.entries

namespace JavaScript

variable {registry : Registry} {readMethod : String}

/-- The records of an interface, those of the folded list types included. -/
def allRecords (interface : Interface) : List Record :=
  interface.types.flatMap recordsOf

/-- A record is that of a registered type or that of a list type folded into one. -/
theorem mem_allRecords_cases {record : Record}
    (hmem : record ∈ allRecords (.ofRegistry registry readMethod)) :
    (∃ type ∈ registry.types, record = .ofType registry readMethod type) ∨
    ∃ list ∈ registry.folded, record = .ofListType registry list := by
  obtain ⟨descriptor, hdescriptor, hrecord⟩ := List.mem_flatMap.mp hmem
  obtain ⟨owner, howner, rfl⟩ := List.mem_map.mp hdescriptor
  rw [Descriptor.ofType] at hrecord
  split at hrecord
  · exact absurd hrecord List.not_mem_nil
  · rcases List.mem_cons.mp hrecord with rfl | hlist
    · exact .inl ⟨owner, howner, rfl⟩
    · obtain ⟨collection, hcollection, rfl⟩ :=
        Option.map_eq_some_iff.mp (Option.mem_toList.mp hlist)
      obtain ⟨list, hfolded, rfl⟩ := Option.map_eq_some_iff.mp hcollection
      exact .inr ⟨list, Registry.mem_folded.mpr ⟨owner, howner, hfolded⟩, rfl⟩

/-- Every record has the name and the constructor of a type that is registered or folded. -/
theorem exists_type_of_mem_allRecords {record : Record}
    (hmem : record ∈ allRecords (.ofRegistry registry readMethod)) :
    ∃ type ∈ registry.allTypes, record.name = .ofName type.name ∧
      record.constructor = Constructor.ofType? registry type := by
  rcases mem_allRecords_cases hmem with ⟨type, htype, rfl⟩ | ⟨list, hlist, rfl⟩
  · exact ⟨type, List.mem_append_left _ htype, rfl, rfl⟩
  · exact ⟨list, List.mem_append_right _ hlist, rfl, rfl⟩

/-- A record with a model is that of a registered type. -/
theorem exists_ofType_of_model {record : Record} {model : Model}
    (hmem : record ∈ allRecords (.ofRegistry registry readMethod))
    (hmodel : record.model = some model) :
    ∃ type ∈ registry.types, record = .ofType registry readMethod type := by
  rcases mem_allRecords_cases hmem with htype | ⟨list, -, rfl⟩
  · exact htype
  · exact absurd hmodel (by simp [Record.ofListType])

theorem ofType_mem_allRecords {type : TypeDef} (hmem : type ∈ registry.types)
    (hrecord : type.isEnumeration = false) :
    Record.ofType registry readMethod type ∈ allRecords (.ofRegistry registry readMethod) := by
  refine List.mem_flatMap.mpr ⟨_, List.mem_map_of_mem hmem, ?_⟩
  rw [Descriptor.ofType, hrecord]
  exact List.mem_cons_self

end JavaScript

end RestModel

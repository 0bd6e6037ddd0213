import RestModel.Proofs.Compilation.OwnTypes
import RestModel.Proofs.JavaScript.Record
import RestModel.Proofs.Schema.Label

/-!
# The labels of compiled members

Looking up a reference keeps its text, and folding keeps members.  The label of a member can
therefore be read off the schema: it is the local part of what the schema stores for the type that
the member is declared with.
-/

namespace RestModel.Compilation

open JavaScript Schema

variable {options : Options} {documents : List SourceDocument} {document : SourceDocument}
  {owner : EmittedType} {member text : String} {node : MemberNode}

/-- A complex type that is still registered under its name has a record. -/
theorem exists_record_of_mem_names
    (howner : owner ∈ emittedTypes document.root document.name options.naming.homeNamespace)
    (hregistered : { owner.type with sourceDir := document.sourceDir } ∈
      (register options.naming.homeNamespace documents).types)
    (hname : owner.type.name ∈ (ofDocuments options documents).registry.names) :
    ∃ record ∈ allRecords (ofDocuments options documents).interface,
      record.name = .ofName owner.type.name := by
  obtain ⟨type, htype, hsame⟩ := List.mem_map.mp hname
  have hcompiled := isCompiledFrom_of_name_eq (List.mem_append_left _ htype) hregistered hsame
  have hrecord : type.isEnumeration = false := by
    rw [hcompiled.isEnumeration]
    exact isEnumeration_of_mem_emittedTypes howner
  exact ⟨.ofType _ options.methods.readMethod type, ofType_mem_allRecords htype hrecord,
    congrArg Identifier.ofName hsame⟩

/-- The field of a member is labelled with the local part of what its schema stores for the type
that the member is declared with. -/
theorem exists_field_typeLabel {record : Record}
    (howner : owner ∈ emittedTypes document.root document.name options.naming.homeNamespace)
    (hregistered : { owner.type with sourceDir := document.sourceDir } ∈
      (register options.naming.homeNamespace documents).types)
    (hkept : keptNode? owner.complex member = some node)
    (hwritten : node.writtenType? = some text)
    (hrecord : record ∈ allRecords (ofDocuments options documents).interface)
    (hname : record.name = .ofName owner.type.name) :
    ∃ field, record.constructor.bind (·.field? member) = some field ∧
      field.typeLabel = Naming.localPart (storedType document.root text) := by
  obtain ⟨type, htype, htypeName, hconstructor⟩ :
      ∃ type ∈ (ofDocuments options documents).registry.allTypes, record.name = .ofName type.name ∧
        record.constructor = Constructor.ofType? (ofDocuments options documents).registry type :=
    exists_type_of_mem_allRecords hrecord
  have hcompiled := isCompiledFrom_of_name_eq htype hregistered
    (congrArg Identifier.original (htypeName.symm.trans hname))
  have hmember : type.members.get? member =
      some ((TypeRef.unresolved (storedType document.root text)).resolve
        (annotated options documents).contains owner.type.namePrefix) := by
    rw [hcompiled.members, OrderedMap.get?_mapValues,
      get?_members_of_mem_emittedTypes howner hkept hwritten, Option.map_some]
  have hsome : type.members.isEmpty = false := OrderedMap.isEmpty_of_get?_eq_some hmember
  have hfield : record.constructor.bind (·.field? member) =
      (type.members.get? member).map (Field.ofMember type.docs member) := by
    rw [hconstructor, Constructor.ofType?, hsome, if_neg Bool.false_ne_true, Option.bind_some,
      Constructor.field?_ofType]
  rw [hmember, Option.map_some] at hfield
  refine ⟨_, hfield, ?_⟩
  rw [Field.ofMember, TypeRef.raw_resolve]
  rfl

/-- Take a complex type that is registered, and a member of it that is declared with a type which
its schema writes out with values.  Every record of the complex type has a field for the member, and
it has one at least if the type is still registered under its name.  The field is labelled with the
name of the type and all values exactly if no value has a colon and the type is not referred to as a
built-in one. -/
theorem labels_written_values_iff (options : Options) {documents : List SourceDocument}
    {document : SourceDocument} {owner : EmittedType}
    (howner : owner ∈ emittedTypes document.root document.name options.naming.homeNamespace)
    (hregistered : { owner.type with sourceDir := document.sourceDir } ∈
      (register options.naming.homeNamespace documents).types)
    {member text : String} {node : MemberNode} {values : List String}
    (hkept : keptNode? owner.complex member = some node)
    (hwritten : node.writtenType? = some text)
    (hwrites : WritesOut document.root (Naming.localPart text) values) :
    (owner.type.name ∈ (ofDocuments options documents).registry.names →
      ∃ record ∈ allRecords (ofDocuments options documents).interface,
        record.name = .ofName owner.type.name) ∧
    ∀ record ∈ allRecords (ofDocuments options documents).interface,
      record.name = .ofName owner.type.name →
        ∃ field, record.constructor.bind (·.field? member) = some field ∧
          (field.typeLabel = writtenValues (Naming.localPart text) values ↔
            Naming.isPrimitive text = false ∧ ∀ value ∈ values, ':' ∉ value.toList) := by
  refine ⟨exists_record_of_mem_names howner hregistered, ?_⟩
  intro record hrecord hname
  obtain ⟨field, hfield, hlabel⟩ :=
    exists_field_typeLabel howner hregistered hkept hwritten hrecord hname
  refine ⟨field, hfield, ?_⟩
  rw [hlabel]
  exact localPart_storedType_eq_iff hwrites

/-! ## Opening hours -/

/-- The attribute for the time of day when a room opens. -/
def opensAttribute : Xml.Element :=
  ⟨"xs:attribute", [("name", "opens"), ("type", "tns:time-type")], [], ""⟩

/-- The type of a room. -/
def roomType : Xml.Element :=
  ⟨"xs:complexType", [("name", "room-type")], [opensAttribute], ""⟩

/-- The element of a room. -/
def roomElement : Xml.Element :=
  ⟨"xs:element", [("name", "plcm-room"), ("type", "tns:room-type")], [], ""⟩

/-- A schema of rooms that open at one of these times. -/
def hoursSchema (times : List String) : Xml.Element :=
  ⟨"xs:schema", [("targetNamespace", "urn:polycom:room")],
    [roomElement, roomType, stringType "time-type" times], ""⟩

/-- The documents with that schema alone. -/
def hoursDocuments (times : List String) : List SourceDocument :=
  [⟨"wadl/room.xsd", "room", "", .schema, hoursSchema times⟩]

/-- Times in words are the label of the field in full. -/
theorem typeLabel_opens_in_words :
    ∃ record ∈ allRecords (ofDocuments .default (hoursDocuments ["early", "late"])).interface,
      record.name = .ofName "plcm-room" ∧
      ∃ field, record.constructor.bind (·.field? "opens") = some field ∧
        field.typeLabel = "time-type \x7bearly,late\x7d" := by
  have hdocument : ⟨"wadl/room.xsd", "room", "", .schema, hoursSchema ["early", "late"]⟩ ∈
      ofKind .schema (hoursDocuments ["early", "late"]) := List.mem_singleton_self _
  have hroot : (hoursSchema ["early", "late"]).child? "element" = some roomElement := rfl
  have howner : ⟨"room-type", roomType, _⟩ ∈
      emittedTypes (hoursSchema ["early", "late"]) "room" "polycom" :=
    mem_emittedTypes_of_mem_complexTypesOf hroot (List.mem_singleton_self _)
  have hregistered := mem_register_of_mem_emittedTypes (by decide +kernel) hdocument howner
  have hwrites : WritesOut (hoursSchema ["early", "late"]) "time-type" ["early", "late"] :=
    ⟨⟨[], stringType _ _, [], rfl, ⟨rfl, _, rfl, rfl, by decide +kernel⟩, by simp⟩, by simp,
      by decide +kernel⟩
  have hkept : keptNode? roomType "opens" = some (.ofAttribute opensAttribute) := rfl
  have hwritten : (MemberNode.ofAttribute opensAttribute).writtenType? = some "tns:time-type" := rfl
  obtain ⟨hrecords, hlabels⟩ :=
    labels_written_values_iff .default howner hregistered hkept hwritten hwrites
  obtain ⟨record, hrecord, hname⟩ := hrecords (by decide +kernel)
  obtain ⟨field, hfield, hlabel⟩ := hlabels record hrecord hname
  exact ⟨record, hrecord, hname, field, hfield, hlabel.mpr (by decide +kernel)⟩

/-- Times in digits are cut off at the last colon, though the schema writes them out too. -/
theorem typeLabel_opens_cut_off :
    (keptNode? roomType "opens").bind MemberNode.writtenType? = some "tns:time-type" ∧
    WritesOut (hoursSchema ["08:00", "12:30"]) "time-type" ["08:00", "12:30"] ∧
    ∃ record ∈ allRecords (ofDocuments .default (hoursDocuments ["08:00", "12:30"])).interface,
      record.name = .ofName "plcm-room" ∧
      ∃ field, record.constructor.bind (·.field? "opens") = some field ∧
        field.typeLabel = "30\x7d" ∧
        field.typeLabel ≠ writtenValues "time-type" ["08:00", "12:30"] := by
  refine ⟨rfl, ⟨⟨[], stringType _ _, [], rfl, ⟨rfl, _, rfl, rfl, by decide +kernel⟩, by simp⟩,
    by simp, by decide +kernel⟩, ?_⟩
  decide +kernel

end RestModel.Compilation

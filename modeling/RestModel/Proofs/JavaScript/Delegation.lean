import RestModel.Proofs.Descriptor.Collection
import RestModel.Proofs.JavaScript.Artifacts
import RestModel.Proofs.JavaScript.Requires

/-!
# Bases in client files

Client files load nothing: a constructor calls its base by name, and the base has to be defined in
another client file.  It is if it belongs to a record with members that lies on some path.
-/

namespace RestModel

namespace JavaScript

/-! ## Definitions and delegations -/

/-- A line of the file begins the definition of a constructor. -/
def Defines (file : File) (name : String) : Prop :=
  ∃ arguments, HasLine file.content ("var " ++ name ++ " = function(" ++ arguments ++ ")")

/-- The client file of a record has a constructor that delegates to a linked base. -/
def DelegatesTo (interface : Interface) (client : ClientOptions) (origin : File)
    (link : TypeLink) : Prop :=
  ∃ record constructor, .record record ∈ interface.types ∧
    record.constructor = some constructor ∧ constructor.base = some link ∧
      clientFile? client (.record record) = some origin

/-- The bytes of a text. -/
def textBytes (text : String) : List UInt8 :=
  text.toByteArray.data.toList

theorem textBytes_append (front back : String) :
    textBytes (front ++ back) = textBytes front ++ textBytes back := by
  rw [textBytes, String.toByteArray_append, ByteArray.data_append, Array.toList_append]
  rfl

/-- A definition is found by looking at bytes, without taking the text apart into characters. -/
theorem infix_textBytes_of_defines {file : File} {name : String} (hdefines : Defines file name) :
    textBytes ("var " ++ name ++ " = function(") <:+: textBytes file.content := by
  obtain ⟨arguments, front, back, hcontent⟩ := hdefines
  refine ⟨textBytes (line front), textBytes (arguments ++ ")" ++ "\n" ++ back), ?_⟩
  rw [hcontent, ← textBytes_append, ← textBytes_append]
  simp only [line, String.append_assoc]

/-! ## Lines of a constructor -/

theorem hasLine_definition (front name : String) (constructor : Constructor) :
    HasLine (line front ++ bareConstructor name constructor)
      ("var " ++ name ++ " = function(" ++ parameters constructor ++ ")") := by
  refine ⟨front, ?_⟩
  rw [bareConstructor, block_cons]
  exact ⟨_, String.append_assoc.symm⟩

theorem hasLine_baseCall {constructor : Constructor} {base : TypeLink}
    (hbase : constructor.base = some base) (name : String) :
    HasLine (bareConstructor name constructor) ("  " ++ base.name.camelCase ++ ".call(this);") := by
  have hcall : HasLine (line "\x7b" ++ baseCall base)
      ("  " ++ base.name.camelCase ++ ".call(this);") := by
    refine ⟨"\x7b", block [line ""], ?_⟩
    rw [baseCall, block_cons]
    exact String.append_assoc.symm
  have hinner := hcall.append
    (line ("var " ++ name ++ " = function(" ++ parameters constructor ++ ")"))
    (block [block (constructor.fields.map fieldLine), line "\x7d;", baseChain name base])
  rw [bareConstructor, hbase]
  simp only [block_cons, Option.map_some, Option.getD_some, String.append_assoc] at hinner ⊢
  exact hinner

theorem hasLine_baseChain {constructor : Constructor} {base : TypeLink}
    (hbase : constructor.base = some base) (name : String) :
    HasLine (bareConstructor name constructor)
      (name ++ ".prototype = new " ++ base.name.camelCase ++ "();") := by
  have hchain : HasLine (block [line "\x7d;", baseChain name base])
      (name ++ ".prototype = new " ++ base.name.camelCase ++ "();") := by
    refine ⟨"\x7d;", block [line (name ++ ".prototype.constructor = " ++ name ++ ";")], ?_⟩
    simp only [baseChain, block_cons, block_nil, String.append_assoc, String.append_empty]
  have hinner := hchain.block_append [
    line ("var " ++ name ++ " = function(" ++ parameters constructor ++ ")"), line "\x7b",
    baseCall base, block (constructor.fields.map fieldLine)] []
  rw [bareConstructor, hbase]
  exact hinner

/-! ## Lines of a client file -/

variable {interface : Interface} {client : ClientOptions} {record : Record}
  {constructor : Constructor} {file origin : File} {link : TypeLink}

/-- The client file of a record contains its constructor behind a comment. -/
theorem exists_content_of_clientFile? (hconstructor : record.constructor = some constructor)
    (hfile : clientFile? client (.record record) = some file) :
    ∃ front back, file.content = front ++
      (line " */" ++ bareConstructor record.name.camelCase constructor) ++ back := by
  obtain ⟨content, hcontent, rfl⟩ := Option.map_eq_some_iff.mp hfile
  obtain ⟨model, -, rfl⟩ := Option.map_eq_some_iff.mp hcontent
  rw [constructorText?, hconstructor]
  refine ⟨block [
      line "/*",
      line " * Client code generated by wadlgen.",
      line (" * The paths and methods for the type \"" ++ record.name.camelCase ++ "\" are:"),
      block (model.paths.map bannerLine)],
    block [line "", modelFunction record model client, collectionFunctions record client], ?_⟩
  simp only [banner, block_cons, block_nil, line, Option.map_some, Option.getD_some,
    Bool.false_eq_true, if_false, String.append_assoc, String.append_empty, String.empty_append]

theorem defines_of_clientFile? (hconstructor : record.constructor = some constructor)
    (hfile : clientFile? client (.record record) = some file) :
    Defines file record.name.camelCase := by
  obtain ⟨front, back, hcontent⟩ := exists_content_of_clientFile? hconstructor hfile
  refine ⟨parameters constructor, ?_⟩
  rw [hcontent]
  exact (hasLine_definition " */" record.name.camelCase constructor).append front back

/-- The constructor calls its base and makes one to stand below. -/
theorem hasLine_of_delegatesTo (hdelegates : DelegatesTo interface client origin link) :
    origin ∈ clientFiles interface client ∧
      HasLine origin.content ("  " ++ link.name.camelCase ++ ".call(this);") ∧
      ∃ name, HasLine origin.content
        (name ++ ".prototype = new " ++ link.name.camelCase ++ "();") := by
  obtain ⟨record, constructor, hmem, hconstructor, hbase, hfile⟩ := hdelegates
  obtain ⟨front, back, hcontent⟩ := exists_content_of_clientFile? hconstructor hfile
  have hinside : ∀ text, HasLine (bareConstructor record.name.camelCase constructor) text →
      HasLine origin.content text := by
    intro text hline
    have hlater := hline.append (front ++ line " */") back
    rw [hcontent, ← String.append_assoc]
    exact hlater
  refine ⟨List.mem_filterMap.mpr ⟨.record record, hmem, hfile⟩, ?_, record.name.camelCase, ?_⟩
  · exact hinside _ (hasLine_baseCall hbase _)
  · exact hinside _ (hasLine_baseChain hbase _)

/-! ## Bases in a registry -/

variable {registry : Registry} {readMethod : String}

theorem ofType_of_record {type : TypeDef} (hrecord : type.isEnumeration = false) :
    Descriptor.ofType registry readMethod type = .record (.ofType registry readMethod type) := by
  rw [Descriptor.ofType, hrecord]
  rfl

theorem constructor_ofType {type : TypeDef} (hmembers : type.members.isEmpty = false) :
    (Record.ofType registry readMethod type).constructor = some (.ofType registry type) := by
  change Constructor.ofType? registry type = _
  rw [Constructor.ofType?, hmembers]
  rfl

theorem delegatesTo_ofRegistry_iff :
    DelegatesTo (.ofRegistry registry readMethod) client origin link ↔
      ∃ type ∈ registry.types, type.isEnumeration = false ∧ type.members.isEmpty = false ∧
        (Constructor.baseOf registry type).map .ofType = some link ∧
        clientFile? client (.ofType registry readMethod type) = some origin := by
  constructor
  · rintro ⟨record, constructor, hmem, hconstructor, hbase, hfile⟩
    obtain ⟨type, htype, hdescribed⟩ := List.mem_map.mp hmem
    rw [Descriptor.ofType] at hdescribed
    split at hdescribed
    · exact absurd hdescribed (by simp)
    · next hrecord =>
      injection hdescribed with hdescribed
      subst hdescribed
      change Constructor.ofType? registry type = some constructor at hconstructor
      rw [Constructor.ofType?] at hconstructor
      split at hconstructor
      · exact absurd hconstructor (by simp)
      · next hmembers =>
        injection hconstructor with hconstructor
        subst hconstructor
        refine ⟨type, htype, eq_false_of_ne_true hrecord, eq_false_of_ne_true hmembers, hbase, ?_⟩
        rw [Descriptor.ofType, if_neg hrecord]
        exact hfile
  · rintro ⟨type, htype, hrecord, hmembers, hbase, hfile⟩
    rw [ofType_of_record hrecord] at hfile
    refine ⟨_, .ofType registry type, ?_, constructor_ofType hmembers, hbase, hfile⟩
    rw [← ofType_of_record hrecord]
    exact List.mem_map_of_mem htype

/-- A type with members that lies on some path delegates to its base. -/
theorem exists_delegatesTo {type : TypeDef} (hmem : type ∈ registry.types)
    (hrecord : type.isEnumeration = false) (hpaths : type.hasPaths = true)
    (hmembers : type.members.isEmpty = false)
    (hbase : (Constructor.baseOf registry type).map .ofType = some link) :
    ∃ origin, DelegatesTo (.ofRegistry registry readMethod) client origin link := by
  have hpath : (clientFile? client (.ofType registry readMethod type)).map File.path = _ :=
    path_clientFile? type
  rw [hrecord, hpaths, Bool.or_true, if_pos rfl] at hpath
  obtain ⟨origin, hfile, -⟩ := Option.map_eq_some_iff.mp hpath
  exact ⟨origin, delegatesTo_ofRegistry_iff.mpr ⟨type, hmem, hrecord, hmembers, hbase, hfile⟩⟩

theorem exists_defines_of_mem_types {base : TypeDef} (hmem : base ∈ registry.types)
    (hrecord : base.isEnumeration = false) (hpaths : base.hasPaths = true)
    (hmembers : base.members.isEmpty = false) :
    ∃ file ∈ clientFiles (.ofRegistry registry readMethod) client,
      file.path = Path.source base.sourceDir (base.name ++ "-model.js") ∧
        Defines file (Naming.camelCase base.name) := by
  have hpath : (clientFile? client (.ofType registry readMethod base)).map File.path = _ :=
    path_clientFile? base
  rw [hrecord, hpaths, Bool.or_true, if_pos rfl] at hpath
  obtain ⟨file, hfile, hplace⟩ := Option.map_eq_some_iff.mp hpath
  have hlisted : file ∈ clientFiles (.ofRegistry registry readMethod) client :=
    List.mem_filterMap.mpr ⟨_, List.mem_map_of_mem hmem, hfile⟩
  rw [ofType_of_record hrecord] at hfile
  have hdefines := defines_of_clientFile? (constructor_ofType hmembers) hfile
  refine ⟨file, hlisted, ?_, hdefines⟩
  rw [hplace, clientPath, stem, ← source_append, hrecord, clientExtension,
    if_neg Bool.false_ne_true]

/-- What a client file delegates to is a type of the registry, and a client file of its own defines
it if it is a record with members that lies on some path. -/
theorem exists_base_of_delegatesTo
    (hdelegates : DelegatesTo (.ofRegistry registry readMethod) client origin link) :
    ∃ base ∈ registry.allTypes, link = .ofType base ∧
      (base ∈ registry.types → base.isEnumeration = false → base.hasPaths = true →
        base.members.isEmpty = false →
        ∃ file ∈ clientFiles (.ofRegistry registry readMethod) client,
          file.path = Path.source base.sourceDir (base.name ++ "-model.js") ∧
            Defines file link.name.camelCase) := by
  obtain ⟨type, -, -, -, hlink, -⟩ := delegatesTo_ofRegistry_iff.mp hdelegates
  obtain ⟨base, hbase, rfl⟩ := Option.map_eq_some_iff.mp hlink
  refine ⟨base, Constructor.mem_allTypes_of_baseOf hbase, rfl, ?_⟩
  intro hmem hrecord hpaths hmembers
  exact exists_defines_of_mem_types hmem hrecord hpaths hmembers

end JavaScript

end RestModel

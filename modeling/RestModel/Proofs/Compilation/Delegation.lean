import RestModel.Proofs.Compilation.Reordering
import RestModel.Proofs.JavaScript.Delegation

/-!
# Delegation in the client files of a compilation

A client constructor delegates to the base of its type wherever that base lies.  The client files
define the constructors of records on paths only, so the base has to be one of them.
-/

namespace RestModel.Compilation

open JavaScript

theorem exists_delegatesTo_ofDocuments {documents : List SourceDocument} {link : TypeLink}
    (htype : ∃ type ∈ (ofDocuments .default documents).registry.types,
      type.isEnumeration = false ∧ type.hasPaths = true ∧ type.members.isEmpty = false ∧
        (Constructor.baseOf (ofDocuments .default documents).registry type).map .ofType =
          some link) :
    ∃ origin, DelegatesTo (ofDocuments .default documents).interface Options.default.client
      origin link := by
  obtain ⟨type, hmem, hrecord, hpaths, hmembers, hbase⟩ := htype
  exact exists_delegatesTo hmem hrecord hpaths hmembers hbase

/-- If a client file delegates to a constructor, then the constructor belongs to a known type.  A
client file of its own defines it if the type is a registered record with members on some path. -/
theorem ofDocuments_defines_bases (options : Options) (documents : List SourceDocument)
    (client : ClientOptions) {origin : File} {link : TypeLink}
    (hdelegates : DelegatesTo (ofDocuments options documents).interface client origin link) :
    ∃ base ∈ (ofDocuments options documents).registry.allTypes, link = .ofType base ∧
      (base ∈ (ofDocuments options documents).registry.types → base.isEnumeration = false →
        base.hasPaths = true → base.members.isEmpty = false →
        ∃ file ∈ clientFiles (ofDocuments options documents).interface client,
          file.path = Path.source base.sourceDir (base.name ++ "-model.js") ∧
            Defines file link.name.camelCase) :=
  exists_base_of_delegatesTo hdelegates

/-- A user extends an item, and both can be read. -/
def itemDocuments : List SourceDocument := [
  ⟨"wadl/user.xsd", "user", "", .schema, schemaOf [
    ("plcm-item", none, [("id", "xs:int")]),
    ("plcm-user", some "plcm-item", [("role", "xs:string")])]⟩,
  ⟨"wadl/users.wadl", "users", "", .resource,
    readsOf [("items", "plcm-item"), ("users", "plcm-user")]⟩]

theorem defines_item_itemDocuments :
    ∃ file ∈ clientFiles (ofDocuments .default itemDocuments).interface Options.default.client,
      Defines file "plcmItem" := by
  have huser : ∃ origin, DelegatesTo (ofDocuments .default itemDocuments).interface
      Options.default.client origin ⟨.ofName "plcm-item", ""⟩ := by
    apply exists_delegatesTo_ofDocuments
    decide +kernel
  have hitem : ∀ base ∈ (ofDocuments .default itemDocuments).registry.types,
      base.name = "plcm-item" → base.isEnumeration = false ∧ base.hasPaths = true ∧
        base.members.isEmpty = false := by decide +kernel
  have hfolded : (ofDocuments .default itemDocuments).registry.folded.isEmpty = true := by
    decide +kernel
  have hcamelCase : (Identifier.ofName "plcm-item").camelCase = "plcmItem" := by decide
  obtain ⟨origin, hdelegates⟩ := huser
  obtain ⟨base, hmem, hlink, hdefined⟩ :=
    ofDocuments_defines_bases .default itemDocuments Options.default.client hdelegates
  have hname : base.name = "plcm-item" :=
    congrArg (fun link : TypeLink => link.name.original) hlink.symm
  rw [Registry.allTypes, List.isEmpty_iff.mp hfolded, List.append_nil] at hmem
  obtain ⟨hrecord, hpaths, hmembers⟩ := hitem base hmem hname
  obtain ⟨file, hfile, -, hdefines⟩ := hdefined hmem hrecord hpaths hmembers
  rw [hcamelCase] at hdefines
  exact ⟨file, hfile, hdefines⟩

/-- A schema that declares an enumeration by its first element. -/
def tierSchema : Xml.Element :=
  ⟨"xs:schema", [("targetNamespace", "urn:polycom:tier")],
    [⟨"xs:element", [("name", "plcm-tier")], [], ""⟩,
      ⟨"xs:simpleType", [], [⟨"xs:restriction", [("base", "xs:string")],
        [⟨"xs:enumeration", [("value", "gold")], [], ""⟩], ""⟩], ""⟩], ""⟩

/-- A user extends an item that cannot be read, a team extends the list of the users, and a badge
extends an enumeration. -/
def teamDocuments : List SourceDocument := [
  ⟨"wadl/tier.xsd", "tier", "", .schema, tierSchema⟩,
  ⟨"wadl/user.xsd", "user", "", .schema, schemaOf [
    ("plcm-item", none, [("id", "xs:int")]),
    ("plcm-user", some "plcm-item", [("role", "xs:string")]),
    ("plcm-user-list", none, [("plcm-user", "plcm-user")]),
    ("plcm-team", some "plcm-user-list", [("title", "xs:string")]),
    ("plcm-badge", some "plcm-tier", [("color", "xs:string")])]⟩,
  ⟨"wadl/users.wadl", "users", "", .resource, readsOf [
    ("users", "plcm-user-list"), ("users/\x7bid\x7d", "plcm-user"), ("teams", "plcm-team"),
    ("badges", "plcm-badge")]⟩]

/-- A client file delegates to the type of that name, and none defines its constructor. -/
def LeavesUndefined (documents : List SourceDocument) (name : String) : Prop :=
  (∃ origin, DelegatesTo (ofDocuments .default documents).interface Options.default.client
    origin ⟨.ofName name, ""⟩) ∧
  ∀ file ∈ clientFiles (ofDocuments .default documents).interface Options.default.client,
    ¬ Defines file (Naming.camelCase name)

/-- A type without a path, a folded list type and an enumeration have no client constructor. -/
theorem leavesUndefined_teamDocuments :
    LeavesUndefined teamDocuments "plcm-item" ∧ LeavesUndefined teamDocuments "plcm-user-list" ∧
      LeavesUndefined teamDocuments "plcm-tier" := by
  have htypes : ∀ name ∈ ["plcm-item", "plcm-user-list", "plcm-tier"],
      ∃ type ∈ (ofDocuments .default teamDocuments).registry.types,
        type.isEnumeration = false ∧ type.hasPaths = true ∧ type.members.isEmpty = false ∧
          (Constructor.baseOf (ofDocuments .default teamDocuments).registry type).map .ofType =
            some (⟨.ofName name, ""⟩ : TypeLink) := by decide +kernel
  have hnowhere : ∀ file ∈ clientFiles (ofDocuments .default teamDocuments).interface
      Options.default.client, ∀ name ∈ ["plcm-item", "plcm-user-list", "plcm-tier"],
        ¬ textBytes ("var " ++ Naming.camelCase name ++ " = function(") <:+:
          textBytes file.content := by decide +kernel
  have hundefined : ∀ name ∈ ["plcm-item", "plcm-user-list", "plcm-tier"],
      LeavesUndefined teamDocuments name := by
    intro name hname
    refine ⟨exists_delegatesTo_ofDocuments (htypes name hname), ?_⟩
    intro file hfile hdefines
    exact hnowhere file hfile name hname (infix_textBytes_of_defines hdefines)
  exact ⟨hundefined _ (by simp), hundefined _ (by simp), hundefined _ (by simp)⟩

end RestModel.Compilation

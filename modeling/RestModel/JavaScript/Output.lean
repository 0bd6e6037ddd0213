import RestModel.JavaScript.Constructor
import RestModel.JavaScript.Enumeration
import RestModel.JavaScript.Index
import RestModel.JavaScript.Model

/-!
# Generated files

The server gets one module for every enumeration and every record with members, folded list types
included, and an index of them all.  The client gets one file for every enumeration and every record
that lies on some path.
-/

namespace RestModel.JavaScript

/-- A server module together with its entry in the index. -/
structure ServerModule where
  file : File
  entry : IndexEntry

/-- The server module of a type. -/
def ServerModule.ofType (name : Identifier) (sourceDir content : String) : ServerModule :=
  ⟨⟨Path.source sourceDir (name.original ++ ".js"), content⟩, .ofType name sourceDir⟩

/-- A record and the record of the list type folded into it. -/
def withListType (record : Record) : List Record :=
  record :: (record.collection.map Collection.list).toList

/-- The server module of a record with members. -/
def recordModule? (record : Record) : Option ServerModule :=
  (constructorText? record true).map (.ofType record.name record.sourceDir)

/-- The server modules of a described type. -/
def serverModules : Descriptor → List ServerModule
  | .enumeration enumeration =>
    [.ofType enumeration.name enumeration.sourceDir (enumerationText enumeration true)]
  | .record record => (withListType record).filterMap recordModule?

/-- The server files of an interface; the index comes last. -/
def serverFiles (interface : Interface) : List File :=
  let modules := interface.types.flatMap serverModules
  modules.map ServerModule.file ++ [⟨"index.js", indexText (modules.map ServerModule.entry)⟩]

/-- The client file of a described type, if it has one. -/
def clientFile? (client : ClientOptions) : Descriptor → Option File
  | .enumeration enumeration =>
    some ⟨Path.source enumeration.sourceDir (enumeration.name.original ++ "-enum.js"),
      enumerationText enumeration false⟩
  | .record record =>
    (modelText? record client).map (fun content =>
      ⟨Path.source record.sourceDir (record.name.original ++ "-model.js"), content⟩)

/-- The client files of an interface. -/
def clientFiles (interface : Interface) (client : ClientOptions) : List File :=
  interface.types.filterMap (clientFile? client)

end RestModel.JavaScript

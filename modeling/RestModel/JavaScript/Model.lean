import RestModel.JavaScript.Constructor
import RestModel.Options

/-!
# Models

The client code of a record that lies on some path: a banner with its paths, the bare constructor, a
model bound to the simplest path, and one collection for each endpoint of its list type.
-/

namespace RestModel.JavaScript

/-- The line of the banner for one path. -/
def bannerLine (entry : PathMethods) : String :=
  line (" *   " ++ entry.path ++ " supports methods: " ++ ", ".intercalate entry.methods)

/-- The comment in front of a model. -/
def banner (name : String) (paths : List PathMethods) : String :=
  block [
    line "/*",
    line " * Client code generated by wadlgen.",
    line (" * The paths and methods for the type \"" ++ name ++ "\" are:"),
    block (paths.map bannerLine),
    line " */"]

/-- The beginning of the function of a model or collection. -/
def functionHead (name base : String) : String :=
  block [
    line ("var " ++ name ++ " = function(attributes, options)"),
    line "\x7b",
    line ("  _.extend(this, new " ++ base ++ "());")]

/-- The statements that copy the arguments of a model or collection. -/
def argumentCopies : String :=
  block [
    line "  attributes = attributes ? _.clone(attributes) : \x7b\x7d;",
    line "  options = options ? _.clone(options) : \x7b\x7d;"]

/-- The statement that takes over the attributes, and the end of the function. -/
def functionTail : String :=
  block [line "  this.set(this.parse(attributes, options), options);", line "\x7d;"]

/-- The statements that tie a model to the constructor of its record. -/
def payloadStatements (name : String) (constructor : Constructor) : String :=
  block [
    line ("  this.payloadType = " ++ name ++ ";"),
    line ("  this.setData = function(" ++ parameters constructor ++ ")"),
    line "  \x7b",
    line "    var obj = \x7b\x7d;",
    line "    this.payloadType.apply(obj, arguments);",
    line "    this.set(obj);",
    line "  \x7d;"]

/-- The constant that holds the name of a member. -/
def attrNameLine (accessor : Accessor) : String :=
  line ("  this." ++ accessor.attrName ++ " = \"" ++ accessor.member ++ "\";")

/-- The method that writes a member. -/
def setterLine (accessor : Accessor) : String :=
  line ("  this." ++ accessor.setter ++ " = function(val) \x7b this.set(this." ++
    accessor.attrName ++ ", val); \x7d;")

/-- The method that reads a member. -/
def getterLine (accessor : Accessor) : String :=
  line ("  this." ++ accessor.getter ++ " = function() \x7b return this.get(this." ++
    accessor.attrName ++ "); \x7d;")

/-- The function of a model. -/
def modelFunction (record : Record) (model : Model) (client : ClientOptions) : String :=
  let name := record.name.camelCase
  block [
    functionHead (name ++ "Model") client.modelBase,
    argumentCopies,
    line ("  this.url = \"" ++ model.url ++ "\";"),
    line ("  this.returnType = \"" ++ record.name.original ++ "\";"),
    (record.constructor.map (payloadStatements name)).getD "",
    line "",
    block (model.accessors.map attrNameLine),
    line "",
    block (model.accessors.map setterLine),
    line "",
    block (model.accessors.map getterLine),
    line "",
    functionTail]

/-- The function of the collection for one endpoint. -/
def collectionFunction (name listName : String) (client : ClientOptions) (endpoint : Endpoint) :
    String :=
  block [
    line "",
    functionHead (name ++ endpoint.suffix ++ "Collection") client.collectionBase,
    line ("  this.url = \"" ++ endpoint.path ++ "\";"),
    line ("  this.returnType = \"" ++ listName ++ "\";"),
    line ("  this.model = " ++ name ++ "Model;"),
    argumentCopies,
    functionTail]

/-- The functions of the collections of a record. -/
def collectionFunctions (record : Record) (client : ClientOptions) : String :=
  match record.collection with
  | none => ""
  | some collection =>
    block (collection.endpoints.map
      (collectionFunction record.name.camelCase collection.list.name.original client))

/-- The client code of a record; a record on no path has none. -/
def modelText? (record : Record) (client : ClientOptions) : Option String :=
  record.model.map (fun model =>
    block [
      banner record.name.camelCase model.paths,
      ((constructorText? record false).map line).getD "",
      modelFunction record model client,
      collectionFunctions record client])

end RestModel.JavaScript

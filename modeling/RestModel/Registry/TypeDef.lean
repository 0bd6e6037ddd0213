import RestModel.Naming
import RestModel.OrderedMap
import RestModel.Path.Module

/-!
# Types

A type has members with declared types, the documentation of some of them, and the resource paths
that carry it.  A reference to another type starts out as the text of the schema and is resolved
once all types are known.
-/

namespace RestModel

/-- The declared type of a member. -/
inductive TypeRef where
  /-- A registered type; `raw` keeps the reference as the schema has it. -/
  | resolved (id raw : String)
  /-- A built-in type, a text from a substitution, or a reference to an unknown type. -/
  | unresolved (raw : String)
  /-- The value of an enumeration member. -/
  | literal (value : String)
  deriving DecidableEq, Inhabited

namespace TypeRef

/-- The text of the reference. -/
def raw : TypeRef → String
  | resolved _ raw => raw
  | unresolved raw => raw
  | literal value => value

/-- The name of the registered type behind the reference. -/
def id? : TypeRef → Option String
  | resolved id _ => some id
  | _ => none

end TypeRef

/-- What a type derives from. -/
inductive BaseType where
  /-- The mark of a placeholder, made for a simple type that is no enumeration. -/
  | listOfUnknown
  /-- An extended type. -/
  | named (target : TypeRef)
  deriving DecidableEq, Inhabited

/-- A type declared by a schema. -/
structure TypeDef where
  /-- The name under which the type is registered, with its disambiguation included. -/
  name : String
  namespaceUri : String
  /-- The beginning of the names of types from foreign namespaces; empty for the home namespace. -/
  namePrefix : String
  isEnumeration : Bool
  base : Option BaseType
  /-- Member names with their types, in declaration order. -/
  members : OrderedMap String TypeRef
  docs : OrderedMap String String
  /-- Resource paths with the methods declared on them, both in declaration order. -/
  paths : OrderedMap String (List String)
  /-- The list type folded into this one. -/
  collection : Option TypeDef
  /-- The directory of the declaring document relative to the input root. -/
  sourceDir : String

namespace TypeDef

/-- A type without members, paths and base. -/
def named (name namespaceUri namePrefix : String) : TypeDef where
  name := name
  namespaceUri := namespaceUri
  namePrefix := namePrefix
  isEnumeration := false
  base := none
  members := .empty
  docs := .empty
  paths := .empty
  collection := none
  sourceDir := ""

instance : Inhabited TypeDef := ⟨named "" "" ""⟩

/-- The name of the type qualified by its namespace. -/
def qualifiedName (type : TypeDef) : String :=
  type.namespaceUri ++ ":" ++ type.name

/-- The methods declared on a path. -/
def methodsOn (type : TypeDef) (path : String) : List String :=
  (type.paths.get? path).getD []

/-- Whether the method is already declared on the path. -/
def hasMethod (type : TypeDef) (method path : String) : Bool :=
  (type.methodsOn path).contains method

/-- Declare a method on a path.  A method that is already declared there changes nothing. -/
def addMethod (type : TypeDef) (method path : String) : TypeDef :=
  if type.hasMethod method path then type
  else { type with paths := type.paths.insert path (type.methodsOn path ++ [method]) }

/-- Declare a method on a path, and tell whether it was new there. -/
def declareMethod (type : TypeDef) (method path : String) : TypeDef × Bool :=
  (type.addMethod method path, !type.hasMethod method path)

/-- The number of paths on which the method is declared. -/
def methodCount (type : TypeDef) (method : String) : Nat :=
  (type.paths.values.filter (·.contains method)).length

/-- Whether the type has a member of that name. -/
def hasMember (type : TypeDef) (member : String) : Bool :=
  type.members.contains member

/-- Whether the type lies on some resource path. -/
def hasPaths (type : TypeDef) : Bool :=
  !type.paths.isEmpty

/-- Whether the type is a placeholder for a simple type that is no enumeration. -/
def isPlaceholder (type : TypeDef) : Bool :=
  type.base == some .listOfUnknown

end TypeDef

/-- Whether some segment of the path is a parameter. -/
def Path.hasParameters (path : String) : Bool :=
  (Path.segments path).any Naming.isParameter

/-- Whether one path is strictly better to address a type: a path without parameters is better than
one with parameters, and otherwise a path with fewer bytes is better than a longer one. -/
def Path.isSimpler (left right : String) : Bool :=
  match hasParameters left, hasParameters right with
  | false, true => true
  | true, false => false
  | _, _ => left.utf8ByteSize < right.utf8ByteSize

/-- The simplest path of a list; of several simplest ones the first. -/
def Path.simplest? : List String → Option String
  | [] => none
  | path :: rest =>
    some (rest.foldl (fun best other => if isSimpler other best then other else best) path)

/-- The path by which the type is addressed: the simplest of its paths. -/
def TypeDef.canonicalPath? (type : TypeDef) : Option String :=
  Path.simplest? type.paths.keys

end RestModel

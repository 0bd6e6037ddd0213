import RestModel.Diagnostic
import RestModel.Naming

/-!
# Descriptors

What a renderer needs to know about each type, with every name and path worked out.
-/

namespace RestModel

/-- A reference to another described type. -/
structure TypeLink where
  name : Identifier
  sourceDir : String
  deriving DecidableEq

/-- A member of a data constructor. -/
structure Field where
  name : Identifier
  /-- The parameter that carries the value of the member. -/
  param : String
  /-- The declared type without its namespace prefix. -/
  typeLabel : String
  /-- The first line of the documentation. -/
  doc : Option String
  deriving DecidableEq

/-- The data constructor of a record. -/
structure Constructor where
  /-- The fields in declaration order. -/
  fields : List Field
  /-- The type the constructor delegates to. -/
  base : Option TypeLink
  /-- The types of members that have a constructor of their own, the base excluded. -/
  requires : List TypeLink
  /-- The registered types of members that have no members, hence no constructor. -/
  memberlessRequires : List TypeLink
  deriving DecidableEq

/-- A path with the methods declared on it. -/
structure PathMethods where
  path : String
  methods : List String
  deriving DecidableEq

/-- The names by which one member is read and written. -/
structure Accessor where
  member : String
  attrName : String
  getter : String
  setter : String
  deriving DecidableEq

/-- The model of a record that lies on some path. -/
structure Model where
  /-- The path that the model reads and writes. -/
  url : String
  paths : List PathMethods
  accessors : List Accessor
  deriving DecidableEq

/-- A list type folded into the record it lists, with one endpoint for each of its read paths. -/
structure Collection (ListType : Type) where
  list : ListType
  endpoints : List Endpoint

/-- A type with members. -/
structure Record where
  name : Identifier
  sourceDir : String
  /-- The constructor; a type without members has none. -/
  constructor : Option Constructor
  /-- The model; a type that lies on no path has none. -/
  model : Option Model
  collection : Option (Collection Record)

/-- A member of an enumeration. -/
structure Variant where
  key : String
  value : String
  deriving DecidableEq

/-- An enumeration with its members. -/
structure Enumeration where
  name : Identifier
  sourceDir : String
  variants : List Variant
  deriving DecidableEq

/-- A described type. -/
inductive Descriptor where
  | enumeration (described : Enumeration)
  | record (described : Record)

namespace Descriptor

/-- The name of the described type. -/
def name : Descriptor → Identifier
  | enumeration described => described.name
  | record described => described.name

/-- The directory of the document that declared the type. -/
def sourceDir : Descriptor → String
  | enumeration described => described.sourceDir
  | record described => described.sourceDir

end Descriptor

/-- The described types in registry order, and what was found on the way. -/
structure Interface where
  types : List Descriptor
  diagnostics : List Diagnostic

/-- The suffix collisions among the diagnostics. -/
def Interface.collisions (interface : Interface) : List Collision :=
  interface.diagnostics.filterMap (fun diagnostic =>
    match diagnostic with
    | .suffixCollision collision => some collision
    | .unregisteredReference _ _ _ => none)

end RestModel

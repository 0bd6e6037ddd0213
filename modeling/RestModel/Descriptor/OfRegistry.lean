import RestModel.Descriptor.Basic
import RestModel.Registry.Basic
import RestModel.Text.Blank

/-!
# Describing the types of a registry

Each registered type gets one descriptor, in registry order.  References are looked up in the
registry; list types folded into others are found there too.
-/

namespace RestModel

/-- The reference to a type. -/
def TypeLink.ofType (type : TypeDef) : TypeLink :=
  ⟨.ofName type.name, type.sourceDir⟩

/-- The enumeration that a type describes. -/
def Enumeration.ofType (type : TypeDef) : Enumeration where
  name := .ofName type.name
  sourceDir := type.sourceDir
  variants := type.members.entries.map (fun (key, value) => ⟨key, value.raw⟩)

/-- The field for a member of a type. -/
def Field.ofMember (docs : OrderedMap String String) (member : String) (type : TypeRef) :
    Field where
  name := .ofName member
  param := Naming.camelCase member ++ "Param"
  typeLabel := Naming.localPart type.raw
  doc := (docs.get? member).bind Text.firstLine

namespace Constructor

/-- The type that the constructor of a type delegates to: its base, if that is registered and no
placeholder. -/
def baseOf (registry : Registry) (type : TypeDef) : Option TypeDef :=
  match type.base with
  | some (.named target) => (target.id?.bind registry.lookup).filter (!·.isPlaceholder)
  | _ => none

/-- The types that references name, each once and in order of first occurrence, without the types
named in `seen`. -/
def requiredTypes (registry : Registry) : List String → List TypeRef → List TypeDef
  | _, [] => []
  | seen, ref :: rest =>
    match ref.id? with
    | none => requiredTypes registry seen rest
    | some id =>
      if seen.contains id then requiredTypes registry seen rest
      else (registry.lookup id).toList ++ requiredTypes registry (id :: seen) rest

/-- The types that the members of a type name, without the type itself and its base. -/
def required (registry : Registry) (type : TypeDef) : List TypeDef :=
  requiredTypes registry (type.name :: ((baseOf registry type).map TypeDef.name).toList)
    type.members.values

/-- The constructor of a type with members. -/
def ofType (registry : Registry) (type : TypeDef) : Constructor where
  fields := type.members.entries.map (fun (member, ref) => .ofMember type.docs member ref)
  base := (baseOf registry type).map .ofType
  requires := ((required registry type).filter (!·.members.isEmpty)).map .ofType
  memberlessRequires := ((required registry type).filter (·.members.isEmpty)).map .ofType

/-- The constructor of a type, if it has members. -/
def ofType? (registry : Registry) (type : TypeDef) : Option Constructor :=
  if type.members.isEmpty then none else some (ofType registry type)

end Constructor

/-- The accessors of a member. -/
def Accessor.ofMember (member : String) : Accessor where
  member := member
  attrName := Naming.camelCase member ++ "AttrName"
  getter := Naming.camelCase ("get-" ++ member)
  setter := Naming.camelCase ("set-" ++ member)

/-- The model of a type, if it lies on some path. -/
def Model.ofType? (type : TypeDef) : Option Model :=
  type.canonicalPath?.map (fun url =>
    { url := url
      paths := type.paths.entries.map (fun (path, methods) => ⟨path, methods⟩)
      accessors := type.members.keys.map .ofMember })

namespace Record

/-- The record of a folded list type: its constructor without a model. -/
def ofListType (registry : Registry) (list : TypeDef) : Record where
  name := .ofName list.name
  sourceDir := list.sourceDir
  constructor := Constructor.ofType? registry list
  model := none
  collection := none

/-- The endpoints of the list type folded into a type. -/
def endpointsOf (type list : TypeDef) (readMethod : String) : Endpoints :=
  .ofPaths type.name list.paths readMethod

/-- The record of a registered type. -/
def ofType (registry : Registry) (readMethod : String) (type : TypeDef) : Record where
  name := .ofName type.name
  sourceDir := type.sourceDir
  constructor := Constructor.ofType? registry type
  model := Model.ofType? type
  collection := type.collection.map (fun list =>
    ⟨ofListType registry list, (endpointsOf type list readMethod).endpoints⟩)

end Record

/-- The descriptor of a registered type. -/
def Descriptor.ofType (registry : Registry) (readMethod : String) (type : TypeDef) : Descriptor :=
  if type.isEnumeration then .enumeration (.ofType type)
  else .record (.ofType registry readMethod type)

/-- The suffix collisions of the collection of a registered type. -/
def TypeDef.collisions (type : TypeDef) (readMethod : String) : List Collision :=
  if type.isEnumeration then []
  else
    match type.collection with
    | some list => (Record.endpointsOf type list readMethod).collisions
    | none => []

/-- Describe the types of a registry. -/
def Interface.ofRegistry (registry : Registry) (readMethod : String) : Interface where
  types := registry.types.map (.ofType registry readMethod)
  diagnostics := registry.types.flatMap
    (fun type => (type.collisions readMethod).map .suffixCollision)

end RestModel

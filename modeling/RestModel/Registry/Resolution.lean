import RestModel.Registry.Basic

/-!
# Resolving references

Once every type is registered, the references of members and bases are looked up.  A reference that
does not name a built-in type stands for the registered type with its local name.  A type from a
foreign namespace first looks for that name behind its own prefix.
-/

namespace RestModel

namespace TypeRef

/-- The registered name that the text of a reference stands for in a type with the given prefix. -/
def target? (known : String → Bool) (namePrefix raw : String) : Option String :=
  let name := Naming.localPart raw
  if namePrefix ≠ "" ∧ known (namePrefix ++ name) then some (namePrefix ++ name)
  else if known name then some name
  else none

/-- Look up a reference; what cannot be found stays as it is. -/
def resolve (known : String → Bool) (namePrefix : String) : TypeRef → TypeRef
  | unresolved raw =>
    if Naming.isPrimitive raw then unresolved raw
    else
      match target? known namePrefix raw with
      | some id => resolved id raw
      | none => unresolved raw
  | ref => ref

/-- Whether a reference names neither a built-in nor a registered type. -/
def isDangling (known : String → Bool) (namePrefix : String) : TypeRef → Bool
  | unresolved raw => !Naming.isPrimitive raw && (target? known namePrefix raw).isNone
  | _ => false

end TypeRef

/-- Look up the base of a type. -/
def BaseType.resolve (known : String → Bool) (namePrefix : String) : BaseType → BaseType
  | .listOfUnknown => .listOfUnknown
  | .named target => .named (target.resolve known namePrefix)

namespace TypeDef

/-- Look up the references of a type: those of its members, then its base. -/
def resolve (known : String → Bool) (type : TypeDef) : TypeDef :=
  { type with
    members := type.members.mapValues (·.resolve known type.namePrefix)
    base := type.base.map (·.resolve known type.namePrefix) }

/-- The base reference of a type that extends another one. -/
def baseRef? (type : TypeDef) : Option TypeRef :=
  match type.base with
  | some (.named target) => some target
  | _ => none

/-- The members whose reference names no type, in order. -/
def danglingMembers (known : String → Bool) (type : TypeDef) : List (String × TypeRef) :=
  type.members.entries.filter (fun entry => entry.2.isDangling known type.namePrefix)

/-- The base reference, if it names no type. -/
def danglingBase? (known : String → Bool) (type : TypeDef) : Option TypeRef :=
  type.baseRef?.filter (·.isDangling known type.namePrefix)

/-- The number of references of the type that name no type. -/
def danglingCount (known : String → Bool) (type : TypeDef) : Nat :=
  (type.danglingMembers known).length + (type.danglingBase? known).toList.length

end TypeDef

namespace Registry

/-- Look up every reference of the registered types. -/
def resolve (registry : Registry) : Registry :=
  registry.mapTypes (·.resolve registry.contains) (fun _ => rfl)

/-- The number of references that looking up leaves unresolved, built-in types aside. -/
def danglingCount (registry : Registry) : Nat :=
  registry.types.foldr (fun type total => type.danglingCount registry.contains + total) 0

end Registry

end RestModel

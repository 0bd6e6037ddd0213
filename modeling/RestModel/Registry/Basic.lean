import RestModel.Registry.TypeDef

/-!
# The registry

All types known to one compilation, in the order in which their names were first registered.  A
type is found by its own name, and no two registered types have the same name.
-/

namespace RestModel

/-- The registered types in order, each name once. -/
structure Registry where
  types : List TypeDef
  nodup : (types.map TypeDef.name).Nodup

namespace Registry

@[ext] theorem ext {left right : Registry} (same : left.types = right.types) : left = right := by
  cases left
  cases right
  cases same
  rfl

/-- The registry without any type. -/
def empty : Registry :=
  ⟨[], List.nodup_nil⟩

instance : Inhabited Registry := ⟨empty⟩

/-- The names of the registered types in order. -/
def names (registry : Registry) : List String :=
  registry.types.map TypeDef.name

/-- The number of registered types. -/
def size (registry : Registry) : Nat :=
  registry.types.length

/-- Whether no type is registered. -/
def isEmpty (registry : Registry) : Bool :=
  registry.types.isEmpty

/-- The registered type of that name. -/
def get? (registry : Registry) (name : String) : Option TypeDef :=
  registry.types.find? (·.name == name)

/-- Whether a type of that name is registered. -/
def contains (registry : Registry) (name : String) : Bool :=
  registry.types.any (·.name == name)

/-- The list types folded into registered types, in the order of these types. -/
def folded (registry : Registry) : List TypeDef :=
  registry.types.filterMap TypeDef.collection

/-- The type of that name, registered or folded into a registered one. -/
def lookup (registry : Registry) (name : String) : Option TypeDef :=
  registry.get? name <|> registry.folded.find? (·.name == name)

/-- Put a type into the place of the type with its name, or at the end. -/
def insertType (type : TypeDef) : List TypeDef → List TypeDef
  | [] => [type]
  | other :: rest => if other.name = type.name then type :: rest else other :: insertType type rest

theorem names_insertType (type : TypeDef) (types : List TypeDef) :
    (insertType type types).map TypeDef.name =
      if type.name ∈ types.map TypeDef.name then types.map TypeDef.name
      else types.map TypeDef.name ++ [type.name] := by
  induction types with
  | nil => rfl
  | cons other rest ih =>
    by_cases same : other.name = type.name
    · simp [insertType, same]
    · have differs : type.name ≠ other.name := fun h => same h.symm
      simp only [insertType, if_neg same, List.map_cons, ih, List.mem_cons, differs, false_or]
      split <;> rfl

theorem nodup_insertType (type : TypeDef) {types : List TypeDef}
    (nodup : (types.map TypeDef.name).Nodup) :
    ((insertType type types).map TypeDef.name).Nodup := by
  rw [names_insertType]
  split
  · exact nodup
  · next absent =>
    rw [List.nodup_append]
    refine ⟨nodup, by simp, ?_⟩
    intro left inLeft right inRight
    rw [List.mem_singleton] at inRight
    rintro rfl
    exact absent (inRight ▸ inLeft)

/-- Register a type.  A type of the same name is replaced where it stands. -/
def insert (registry : Registry) (type : TypeDef) : Registry :=
  ⟨insertType type registry.types, nodup_insertType type registry.nodup⟩

/-- Register types one after the other. -/
def insertAll (registry : Registry) (types : List TypeDef) : Registry :=
  types.foldl insert registry

/-- Remove the type of that name; the others keep their order. -/
def erase (registry : Registry) (name : String) : Registry where
  types := registry.types.filter (·.name != name)
  nodup := registry.nodup.sublist (List.filter_sublist.map TypeDef.name)

/-- Apply a function that keeps the names of types to every registered type. -/
def mapTypes (registry : Registry) (f : TypeDef → TypeDef)
    (keeps : ∀ type, (f type).name = type.name) : Registry where
  types := registry.types.map f
  nodup := by
    have same : (registry.types.map f).map TypeDef.name = registry.types.map TypeDef.name := by
      simp [Function.comp_def, keeps]
    rw [same]
    exact registry.nodup

theorem name_addMethod (type : TypeDef) (method path : String) :
    (type.addMethod method path).name = type.name := by
  unfold TypeDef.addMethod
  split <;> rfl

/-- Declare a method on a path of the type of that name.  Nothing changes when there is none. -/
def addMethod (registry : Registry) (name method path : String) : Registry :=
  registry.mapTypes
    (fun type => if type.name = name then type.addMethod method path else type)
    (fun type => by split <;> simp [name_addMethod])

/-- Attach a list type to the type of that name. -/
def attachCollection (registry : Registry) (name : String) (list : TypeDef) : Registry :=
  registry.mapTypes
    (fun type => if type.name = name then { type with collection := some list } else type)
    (fun type => by split <;> rfl)

end Registry

end RestModel

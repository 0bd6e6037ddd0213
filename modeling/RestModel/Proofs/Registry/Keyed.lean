import RestModel.Proofs.OrderedMap
import RestModel.Proofs.Registry.Resolution
import RestModel.Proofs.Resource.Replay

/-!
# Types under keys

A registry finds a type by the type's own name.  A store that keeps a key beside every type can do
the same work only as long as each key is the name of its type, although nothing ties the two
together: types are put in, changed where they stand, taken out and moved into others.  No operation
lets them drift apart, so that after any run the store holds what the registry holds.
-/

namespace RestModel

namespace OrderedMap

variable {κ α : Type} [DecidableEq κ]

/-- Take a key out; the others keep their order. -/
def erase (map : OrderedMap κ α) (key : κ) : OrderedMap κ α :=
  map.filter (fun other _ => other != key)

/-- Change the value of a key where it stands. -/
def modify (map : OrderedMap κ α) (key : κ) (f : α → α) : OrderedMap κ α where
  entries := map.entries.map (fun entry => (entry.1, if entry.1 = key then f entry.2 else entry.2))
  nodup := by
    have hkeys : (map.entries.map (fun entry =>
        (entry.1, if entry.1 = key then f entry.2 else entry.2))).map Prod.fst =
          map.entries.map Prod.fst := by
      simp [Function.comp_def]
    rw [hkeys]
    exact map.nodup

theorem entries_insert (map : OrderedMap κ α) (key : κ) (value : α) :
    (map.insert key value).entries = insertEntry key value map.entries := rfl

theorem entries_erase (map : OrderedMap κ α) (key : κ) :
    (map.erase key).entries = map.entries.filter (·.1 != key) := rfl

theorem entries_modify (map : OrderedMap κ α) (key : κ) (f : α → α) :
    (map.modify key f).entries =
      map.entries.map (fun entry => (entry.1, if entry.1 = key then f entry.2 else entry.2)) := rfl

omit [DecidableEq κ] in
theorem entries_mapValues (map : OrderedMap κ α) (f : α → α) :
    (map.mapValues f).entries = map.entries.map (fun entry => (entry.1, f entry.2)) := rfl

end OrderedMap

/-- An operation on the registered types. -/
inductive Registry.Operation where
  | insert (type : TypeDef)
  | remove (name : String)
  | addMethod (name method path : String)
  | resolve
  /-- Walk a resource description. -/
  | collect (statuses : List String) (application : Xml.Element)
  | foldLists (suffix readMethod : String)

/-- The registry after an operation. -/
def Registry.after (registry : Registry) : Operation → Registry
  | .insert type => registry.insert type
  | .remove name => registry.erase name
  | .addMethod name method path => registry.addMethod name method path
  | .resolve => registry.resolve
  | .collect statuses application => (Resource.collect registry statuses application).registry
  | .foldLists suffix readMethod => registry.foldLists suffix readMethod

/-- Types under keys.  A key need not be the name of its type. -/
abbrev KeyedTypes := OrderedMap String TypeDef

namespace KeyedTypes

open Registry (Operation)

/-! ## Operations by key -/

/-- Put a type under its name; what stood there comes back. -/
def put (keyed : KeyedTypes) (type : TypeDef) : KeyedTypes × Option TypeDef :=
  (keyed.insert type.name type, keyed.get? type.name)

/-- The type under the key, or else the first collection with the name. -/
def lookup (keyed : KeyedTypes) (name : String) : Option TypeDef :=
  keyed.get? name <|> (keyed.values.filterMap TypeDef.collection).find? (·.name == name)

/-- Declare a method on a path of the type under the key. -/
def addMethod (keyed : KeyedTypes) (name method path : String) : KeyedTypes :=
  keyed.modify name (·.addMethod method path)

/-- Look up every reference among the keys. -/
def resolve (keyed : KeyedTypes) : KeyedTypes :=
  keyed.mapValues (·.resolve keyed.contains)

/-- Declare the annotations of a resource description in order. -/
def collect (keyed : KeyedTypes) (statuses : List String) (application : Xml.Element) :
    KeyedTypes :=
  (Resource.annotations statuses application).foldl
    (fun current entry => current.addMethod entry.element entry.method entry.path) keyed

/-- The key under which the type stands that takes a list type as its collection, when the types
under the claimed keys already received one. -/
def taker? (keyed : KeyedTypes) (suffix readMethod : String) (claimed : List String)
    (list : TypeDef) : Option String :=
  let name := Registry.singularName suffix list.name
  if !Text.contains suffix list.name || Text.contains suffix name then none
  else
    (keyed.get? name).bind (fun singular =>
      if singular.name ≠ list.name ∧ !(singular.collection.isSome || claimed.contains name) ∧
          list.listsType singular readMethod then some name
      else none)

/-- The list types among `types` that are taken, each with the key of the type that takes it. -/
def foldsFrom (keyed : KeyedTypes) (suffix readMethod : String) :
    List String → List TypeDef → List Fold
  | _, [] => []
  | claimed, list :: rest =>
    match keyed.taker? suffix readMethod claimed list with
    | some singular =>
      ⟨list.name, singular⟩ :: foldsFrom keyed suffix readMethod (singular :: claimed) rest
    | none => foldsFrom keyed suffix readMethod claimed rest

/-- Take a list type out by its name and attach it under the key of the type that takes it. -/
def applyFold (keyed : KeyedTypes) (fold : Fold) : KeyedTypes :=
  match keyed.get? fold.list with
  | none => keyed
  | some list =>
    (keyed.erase fold.list).modify fold.singular ({ · with collection := some list })

/-- Fold the list types into the types they list. -/
def foldLists (keyed : KeyedTypes) (suffix readMethod : String) : KeyedTypes :=
  if suffix = "" then keyed
  else (keyed.foldsFrom suffix readMethod [] keyed.values).foldl applyFold keyed

/-- The store after an operation. -/
def after (keyed : KeyedTypes) : Operation → KeyedTypes
  | .insert type => (keyed.put type).1
  | .remove name => keyed.erase name
  | .addMethod name method path => keyed.addMethod name method path
  | .resolve => keyed.resolve
  | .collect statuses application => keyed.collect statuses application
  | .foldLists suffix readMethod => keyed.foldLists suffix readMethod

/-! ## One operation -/

/-- The store holds the types of a registry in order, each under its own name. -/
def Mirrors (keyed : KeyedTypes) (registry : Registry) : Prop :=
  keyed.entries = registry.types.map (fun type => (type.name, type))

namespace Mirrors

variable {keyed : KeyedTypes} {registry : Registry}

theorem values_eq (hmirrors : keyed.Mirrors registry) : keyed.values = registry.types := by
  rw [OrderedMap.values, hmirrors, List.map_map]
  exact List.map_id registry.types

theorem keys_eq (hmirrors : keyed.Mirrors registry) : keyed.keys = registry.names := by
  rw [OrderedMap.keys, hmirrors, List.map_map]
  rfl

theorem get?_eq (hmirrors : keyed.Mirrors registry) (name : String) :
    keyed.get? name = registry.get? name := by
  ext type
  rw [OrderedMap.get?_eq_some_iff, Registry.get?_eq_some_iff, hmirrors, List.mem_map]
  constructor
  · rintro ⟨other, hother, hsame⟩
    obtain ⟨rfl, rfl⟩ := Prod.mk.inj hsame
    exact ⟨hother, rfl⟩
  · rintro ⟨hmem, rfl⟩
    exact ⟨type, hmem, rfl⟩

theorem contains_eq (hmirrors : keyed.Mirrors registry) : keyed.contains = registry.contains := by
  funext name
  rw [Bool.eq_iff_iff, OrderedMap.contains, List.contains_iff_mem, hmirrors.keys_eq,
    Registry.contains_eq_true_iff]

theorem lookup_eq (hmirrors : keyed.Mirrors registry) (name : String) :
    keyed.lookup name = registry.lookup name := by
  rw [lookup, Registry.lookup, hmirrors.get?_eq, hmirrors.values_eq, Registry.folded]

theorem insertEntry_eq (type : TypeDef) (types : List TypeDef) :
    OrderedMap.insertEntry type.name type (types.map (fun type => (type.name, type))) =
      (Registry.insertType type types).map (fun type => (type.name, type)) := by
  induction types with
  | nil => rfl
  | cons other rest ih =>
      rw [List.map_cons, OrderedMap.insertEntry, Registry.insertType, ih]
      split <;> rfl

theorem put (hmirrors : keyed.Mirrors registry) (type : TypeDef) :
    (keyed.put type).1.Mirrors (registry.insert type) := by
  rw [Mirrors, KeyedTypes.put, OrderedMap.entries_insert, hmirrors]
  exact insertEntry_eq type registry.types

theorem erase (hmirrors : keyed.Mirrors registry) (name : String) :
    Mirrors (keyed.erase name) (registry.erase name) := by
  rw [Mirrors, OrderedMap.entries_erase, hmirrors, List.filter_map]
  rfl

/-- Changing the type under a key is changing the type of that name. -/
theorem modify (hmirrors : keyed.Mirrors registry) (name : String) (f : TypeDef → TypeDef)
    (keeps : ∀ type, (if type.name = name then f type else type).name = type.name) :
    Mirrors (keyed.modify name f)
      (registry.mapTypes (fun type => if type.name = name then f type else type) keeps) := by
  rw [Mirrors, OrderedMap.entries_modify, hmirrors, Registry.types_mapTypes, List.map_map,
    List.map_map]
  apply List.map_congr_left
  intro type _
  rw [Function.comp_apply, Function.comp_apply, keeps type]

theorem addMethod (hmirrors : keyed.Mirrors registry) (name method path : String) :
    (keyed.addMethod name method path).Mirrors (registry.addMethod name method path) :=
  hmirrors.modify name _ _

theorem resolve (hmirrors : keyed.Mirrors registry) :
    keyed.resolve.Mirrors registry.resolve := by
  rw [Mirrors, KeyedTypes.resolve, OrderedMap.entries_mapValues, hmirrors, hmirrors.contains_eq,
    Registry.types_resolve, List.map_map, List.map_map]
  rfl

theorem declare (hmirrors : keyed.Mirrors registry) (replayed : List Resource.Annotation) :
    (replayed.foldl (fun current entry =>
      current.addMethod entry.element entry.method entry.path) keyed).Mirrors
        (replayed.foldl Resource.declare registry) := by
  induction replayed generalizing keyed registry with
  | nil => exact hmirrors
  | cons entry rest ih => exact ih (hmirrors.addMethod entry.element entry.method entry.path)

theorem collect (hmirrors : keyed.Mirrors registry) (statuses : List String)
    (application : Xml.Element) : (keyed.collect statuses application).Mirrors
      (Resource.collect registry statuses application).registry := by
  rw [Resource.collect_eq]
  exact hmirrors.declare _

/-! ### Folding -/

theorem taker?_eq_some_iff (hmirrors : keyed.Mirrors registry) {suffix readMethod : String}
    {claimed : List String} {list : TypeDef} {name : String} :
    keyed.taker? suffix readMethod claimed list = some name ↔
      registry.foldChoice suffix readMethod claimed list = .fold name := by
  simp only [taker?, Registry.foldChoice, hmirrors.get?_eq]
  split
  · simp
  · cases registry.get? (Registry.singularName suffix list.name) with
    | none => simp
    | some singular =>
        simp only [Option.bind_some]
        generalize (singular.collection.isSome ||
          claimed.contains (Registry.singularName suffix list.name)) = taken
        by_cases hsame : singular.name = list.name
        · simp [hsame]
        · cases taken <;> cases list.listsType singular readMethod <;> simp [hsame]

theorem foldsFrom_eq (hmirrors : keyed.Mirrors registry) (suffix readMethod : String)
    (claimed : List String) (types : List TypeDef) :
    keyed.foldsFrom suffix readMethod claimed types =
      registry.foldsFrom suffix readMethod claimed types := by
  induction types generalizing claimed with
  | nil => rfl
  | cons list rest ih =>
      cases htaker : keyed.taker? suffix readMethod claimed list with
      | some name =>
          rw [Registry.foldsFrom_cons_of_fold (hmirrors.taker?_eq_some_iff.mp htaker), ← ih]
          simp only [foldsFrom, htaker]
      | none =>
          have hchoice : ∀ name,
              registry.foldChoice suffix readMethod claimed list ≠ .fold name := by
            intro name hfold
            rw [hmirrors.taker?_eq_some_iff.mpr hfold] at htaker
            exact Option.some_ne_none name htaker
          rw [Registry.foldsFrom_cons_of_not_fold hchoice, ← ih]
          simp only [foldsFrom, htaker]

theorem applyFold (hmirrors : keyed.Mirrors registry) (fold : Fold) :
    (keyed.applyFold fold).Mirrors (registry.applyFold fold) := by
  rw [KeyedTypes.applyFold, Registry.applyFold, hmirrors.get?_eq]
  cases registry.get? fold.list with
  | none => exact hmirrors
  | some list => exact (hmirrors.erase fold.list).modify fold.singular _ _

theorem foldLists (hmirrors : keyed.Mirrors registry) (suffix readMethod : String) :
    (keyed.foldLists suffix readMethod).Mirrors (registry.foldLists suffix readMethod) := by
  rw [KeyedTypes.foldLists, Registry.foldLists, Registry.folds, hmirrors.values_eq,
    hmirrors.foldsFrom_eq]
  split
  · exact hmirrors
  · generalize registry.foldsFrom suffix readMethod [] registry.types = folds
    induction folds generalizing keyed registry with
    | nil => exact hmirrors
    | cons fold rest ih => exact ih (hmirrors.applyFold fold)

/-- Every operation keeps the keys and the names together. -/
theorem after (hmirrors : keyed.Mirrors registry) (operation : Operation) :
    (keyed.after operation).Mirrors (registry.after operation) := by
  cases operation with
  | insert type => exact hmirrors.put type
  | remove name => exact hmirrors.erase name
  | addMethod name method path => exact hmirrors.addMethod name method path
  | resolve => exact hmirrors.resolve
  | collect statuses application => exact hmirrors.collect statuses application
  | foldLists suffix readMethod => exact hmirrors.foldLists suffix readMethod

end Mirrors

/-- After any run from the empty registry the store holds the registered types under their names. -/
theorem mirrors_foldl_after (operations : List Operation) :
    Mirrors (operations.foldl after .empty) (operations.foldl Registry.after .empty) := by
  suffices hrun : ∀ (keyed : KeyedTypes) (registry : Registry), keyed.Mirrors registry →
      Mirrors (operations.foldl after keyed) (operations.foldl Registry.after registry) from
    hrun .empty .empty rfl
  induction operations with
  | nil => exact fun _ _ hmirrors => hmirrors
  | cons operation rest ih => exact fun _ _ hmirrors => ih _ _ (hmirrors.after operation)

end KeyedTypes

/-! ## What operations do to the order -/

namespace Registry

variable {registry : Registry}

/-- An operation changes types where they stand. -/
def Operation.IsUpdate : Operation → Prop
  | .addMethod _ _ _ | .resolve | .collect _ _ => True
  | .insert _ | .remove _ | .foldLists _ _ => False

/-- Types are changed where they stand, under their names. -/
def ChangesInPlace (before after : List TypeDef) : Prop :=
  ∃ change : TypeDef → TypeDef,
    (∀ type, (change type).name = type.name) ∧ after = before.map change

theorem changesInPlace_of_isUpdate {operation : Operation} (hupdate : operation.IsUpdate) :
    ChangesInPlace registry.types (registry.after operation).types := by
  cases operation with
  | addMethod name method path =>
      refine ⟨fun type => if type.name = name then type.addMethod method path else type, ?_, rfl⟩
      intro type
      dsimp only
      split
      · exact name_addMethod type method path
      · rfl
  | resolve => exact ⟨TypeDef.resolve registry.contains, fun _ => rfl, rfl⟩
  | collect statuses application =>
      refine ⟨Resource.replay (Resource.annotations statuses application),
        Resource.name_replay _, ?_⟩
      rw [after, Resource.collect_eq, Resource.types_foldl_declare]
  | insert type => exact hupdate.elim
  | remove name => exact hupdate.elim
  | foldLists suffix readMethod => exact hupdate.elim

theorem changesInPlace_foldLists (suffix readMethod : String) :
    ∃ keep, ChangesInPlace (registry.types.filter keep)
      (registry.foldLists suffix readMethod).types :=
  ⟨_, _, fun type => TypeDef.name_withList type _, types_foldLists⟩

/-- A type of a registered name takes the place of the type with that name. -/
theorem exists_insertType_eq {type : TypeDef} {types : List TypeDef}
    (hname : type.name ∈ types.map TypeDef.name) :
    ∃ front old back, types = front ++ old :: back ∧ old.name = type.name ∧
      insertType type types = front ++ type :: back := by
  induction types with
  | nil => exact absurd hname List.not_mem_nil
  | cons other rest ih =>
      by_cases hsame : other.name = type.name
      · exact ⟨[], other, rest, rfl, hsame, by rw [insertType, if_pos hsame, List.nil_append]⟩
      · rw [List.map_cons, List.mem_cons] at hname
        obtain ⟨front, old, back, rfl, hold, hinsert⟩ := ih (hname.resolve_left (Ne.symm hsame))
        exact ⟨other :: front, old, back, rfl, hold,
          by rw [insertType, if_neg hsame, hinsert, List.cons_append]⟩

/-- What is looked up but not registered under the name is the collection of a registered type. -/
theorem mem_folded_of_lookup_eq_some {name : String} {type : TypeDef}
    (hmissing : registry.get? name = none) (hfound : registry.lookup name = some type) :
    type.name = name ∧ type ∈ registry.folded := by
  rw [lookup, hmissing, Option.orElse_eq_orElse, Option.orElse_eq_or, Option.none_or] at hfound
  exact ⟨by simpa using List.find?_some hfound, List.mem_of_find?_eq_some hfound⟩

theorem lookup_ne_none {type : TypeDef} (hmem : type ∈ registry.folded) :
    registry.lookup type.name ≠ none := by
  obtain ⟨found, hfound, -⟩ := exists_lookup_eq_some (List.mem_map_of_mem
    (List.mem_append_right registry.types hmem) : type.name ∈ registry.allTypes.map TypeDef.name)
  rw [hfound]
  exact Option.some_ne_none found

end Registry

namespace KeyedTypes

open Registry (Operation)

/-- The store is keyed by the names of its types, and operations treat it so. -/
structure IsKeyedByNames (keyed : KeyedTypes) : Prop where
  distinct : (keyed.values.map TypeDef.name).Nodup
  found : ∀ name type, keyed.get? name = some type ↔ type ∈ keyed.values ∧ type.name = name
  /-- A type of a registered name takes the place of the old one, which comes back.  Under the name
  of the old one then stands the new one. -/
  replaced : ∀ type, type.name ∈ keyed.values.map TypeDef.name → ∃ front old back,
    (keyed.put type).2 = some old ∧ old.name = type.name ∧
      keyed.values = front ++ old :: back ∧ (keyed.put type).1.values = front ++ type :: back ∧
        (keyed.put type).1.get? old.name = some type
  appended : ∀ type, type.name ∉ keyed.values.map TypeDef.name →
    (keyed.put type).2 = none ∧ (keyed.put type).1.values = keyed.values ++ [type]
  removed : ∀ name, (keyed.erase name).values = keyed.values.filter (·.name != name)
  updated : ∀ operation : Operation, operation.IsUpdate →
    Registry.ChangesInPlace keyed.values (keyed.after operation).values
  folded : ∀ suffix readMethod, ∃ keep, Registry.ChangesInPlace (keyed.values.filter keep)
    (keyed.foldLists suffix readMethod).values
  lookup_found : ∀ name type, keyed.get? name = some type → keyed.lookup name = some type
  lookup_folded : ∀ name type, keyed.get? name = none → keyed.lookup name = some type →
    type.name = name ∧ ∃ singular ∈ keyed.values, singular.collection = some type
  lookup_missing : ∀ name, keyed.lookup name = none →
    ∀ singular ∈ keyed.values, ∀ list, singular.collection = some list → list.name ≠ name

theorem Mirrors.replaced {keyed : KeyedTypes} {registry : Registry}
    (hmirrors : keyed.Mirrors registry) {type : TypeDef} (hname : type.name ∈ registry.names) :
    ∃ front old back, (keyed.put type).2 = some old ∧ old.name = type.name ∧
      keyed.values = front ++ old :: back ∧ (keyed.put type).1.values = front ++ type :: back ∧
        (keyed.put type).1.get? old.name = some type := by
  obtain ⟨front, old, back, htypes, hold, hinsert⟩ := Registry.exists_insertType_eq hname
  have hmem : old ∈ registry.types := by
    rw [htypes]
    exact List.mem_append_right front List.mem_cons_self
  refine ⟨front, old, back, ?_, hold, hmirrors.values_eq.trans htypes,
    (hmirrors.put type).values_eq.trans hinsert, ?_⟩
  · rw [KeyedTypes.put, hmirrors.get?_eq]
    exact Registry.get?_eq_some_iff.mpr ⟨hmem, hold⟩
  · rw [KeyedTypes.put, hold, OrderedMap.get?_insert, if_pos rfl]

theorem Mirrors.isKeyedByNames {keyed : KeyedTypes} {registry : Registry}
    (hmirrors : keyed.Mirrors registry) : keyed.IsKeyedByNames where
  distinct := by
    rw [hmirrors.values_eq]
    exact registry.nodup
  found name type := by
    rw [hmirrors.get?_eq, hmirrors.values_eq]
    exact Registry.get?_eq_some_iff
  replaced type hname := by
    rw [hmirrors.values_eq] at hname
    exact hmirrors.replaced hname
  appended type hname := by
    rw [hmirrors.values_eq] at hname ⊢
    constructor
    · rw [KeyedTypes.put, hmirrors.get?_eq]
      exact find?_name_eq_none_iff.mpr hname
    · rw [(hmirrors.put type).values_eq]
      exact Registry.insertType_of_not_mem hname
  removed name := by
    rw [(hmirrors.erase name).values_eq, hmirrors.values_eq]
    rfl
  updated operation hupdate := by
    rw [(hmirrors.after operation).values_eq, hmirrors.values_eq]
    exact Registry.changesInPlace_of_isUpdate hupdate
  folded suffix readMethod := by
    rw [(hmirrors.foldLists suffix readMethod).values_eq, hmirrors.values_eq]
    exact Registry.changesInPlace_foldLists suffix readMethod
  lookup_found name type hfound := by
    rw [lookup, hfound]
    rfl
  lookup_folded name type hmissing hfound := by
    rw [hmirrors.get?_eq] at hmissing
    rw [hmirrors.lookup_eq] at hfound
    rw [hmirrors.values_eq, ← Registry.mem_folded]
    exact Registry.mem_folded_of_lookup_eq_some hmissing hfound
  lookup_missing name hmissing singular hsingular list hlist := by
    rw [hmirrors.lookup_eq] at hmissing
    rw [hmirrors.values_eq] at hsingular
    rintro rfl
    exact Registry.lookup_ne_none (Registry.mem_folded.mpr ⟨singular, hsingular, hlist⟩) hmissing

/-- After any run from the empty registry, a store with keys of its own holds the registered types
in order, each under its own name, and finds what the registry finds.  Every operation then treats
the types by their names: a type takes the place of the one with its name, which the notice of the
replacement finds again, or comes last; taking out leaves the others in order; and nothing else
moves or renames a type. -/
theorem runs_stay_keyed_by_names (operations : List Operation) :
    Mirrors (operations.foldl after .empty) (operations.foldl Registry.after .empty) ∧
      IsKeyedByNames (operations.foldl after .empty) ∧
      ∀ name,
        OrderedMap.get? (operations.foldl after .empty) name =
          (operations.foldl Registry.after .empty).get? name ∧
        lookup (operations.foldl after .empty) name =
          (operations.foldl Registry.after .empty).lookup name := by
  have hmirrors := mirrors_foldl_after operations
  exact ⟨hmirrors, hmirrors.isKeyedByNames,
    fun name => ⟨hmirrors.get?_eq name, hmirrors.lookup_eq name⟩⟩

end KeyedTypes

end RestModel

/-!
# Insertion-ordered maps

A finite map that remembers the order in which its keys were first inserted.  Inserting a key again
replaces its value and keeps its place.  That no key occurs twice is part of the type.
-/

namespace RestModel

/-- Key and value pairs in insertion order, each key once. -/
structure OrderedMap (κ α : Type) where
  entries : List (κ × α)
  nodup : (entries.map Prod.fst).Nodup

namespace OrderedMap

variable {κ α β : Type}

@[ext] theorem ext {left right : OrderedMap κ α} (same : left.entries = right.entries) :
    left = right := by
  cases left
  cases right
  cases same
  rfl

/-- The map without any key. -/
def empty : OrderedMap κ α :=
  ⟨[], List.nodup_nil⟩

instance : Inhabited (OrderedMap κ α) := ⟨empty⟩

/-- The keys in insertion order. -/
def keys (map : OrderedMap κ α) : List κ :=
  map.entries.map Prod.fst

/-- The values in the order of their keys. -/
def values (map : OrderedMap κ α) : List α :=
  map.entries.map Prod.snd

/-- Whether the map has no key. -/
def isEmpty (map : OrderedMap κ α) : Bool :=
  map.entries.isEmpty

/-- Apply a function to every value. -/
def mapValues (f : α → β) (map : OrderedMap κ α) : OrderedMap κ β where
  entries := map.entries.map (fun entry => (entry.1, f entry.2))
  nodup := by
    have same : (map.entries.map (fun entry => (entry.1, f entry.2))).map Prod.fst =
        map.entries.map Prod.fst := by
      simp [Function.comp_def]
    rw [same]
    exact map.nodup

@[simp] theorem keys_empty : (empty : OrderedMap κ α).keys = [] := rfl

@[simp] theorem keys_mapValues (f : α → β) (map : OrderedMap κ α) :
    (map.mapValues f).keys = map.keys := by
  simp [keys, mapValues, Function.comp_def]

variable [DecidableEq κ]

/-- The value of a key. -/
def get? (map : OrderedMap κ α) (key : κ) : Option α :=
  map.entries.lookup key

/-- Whether the map has the key. -/
def contains (map : OrderedMap κ α) (key : κ) : Bool :=
  map.keys.contains key

/-- Replace the value of a key where it stands, or add the pair at the end. -/
def insertEntry (key : κ) (value : α) : List (κ × α) → List (κ × α)
  | [] => [(key, value)]
  | (other, old) :: rest =>
    if other = key then (key, value) :: rest else (other, old) :: insertEntry key value rest

theorem keys_insertEntry (key : κ) (value : α) (entries : List (κ × α)) :
    (insertEntry key value entries).map Prod.fst =
      if key ∈ entries.map Prod.fst then entries.map Prod.fst
      else entries.map Prod.fst ++ [key] := by
  induction entries with
  | nil => rfl
  | cons entry rest ih =>
    obtain ⟨other, old⟩ := entry
    by_cases same : other = key
    · simp [insertEntry, same]
    · have differs : key ≠ other := fun h => same h.symm
      simp only [insertEntry, if_neg same, List.map_cons, ih, List.mem_cons, differs, false_or]
      split <;> rfl

theorem nodup_insertEntry (key : κ) (value : α) {entries : List (κ × α)}
    (nodup : (entries.map Prod.fst).Nodup) :
    ((insertEntry key value entries).map Prod.fst).Nodup := by
  rw [keys_insertEntry]
  split
  · exact nodup
  · next absent =>
    rw [List.nodup_append]
    refine ⟨nodup, by simp, ?_⟩
    intro left inLeft right inRight
    rw [List.mem_singleton] at inRight
    rintro rfl
    exact absent (inRight ▸ inLeft)

/-- Give a key a value.  A key of the map keeps its place, a new one comes last. -/
def insert (map : OrderedMap κ α) (key : κ) (value : α) : OrderedMap κ α :=
  ⟨insertEntry key value map.entries, nodup_insertEntry key value map.nodup⟩

/-- The map of a list of pairs: the last value of a key counts, at the place of its first pair. -/
def ofList (pairs : List (κ × α)) : OrderedMap κ α :=
  pairs.foldl (fun map pair => map.insert pair.1 pair.2) empty

theorem keys_insert (map : OrderedMap κ α) (key : κ) (value : α) :
    (map.insert key value).keys = if key ∈ map.keys then map.keys else map.keys ++ [key] :=
  keys_insertEntry key value map.entries

end OrderedMap

end RestModel

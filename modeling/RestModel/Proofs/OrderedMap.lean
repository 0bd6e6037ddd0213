import Mathlib.Data.List.Nodup
import RestModel.OrderedMap

/-!
# Entries and keys of ordered maps

A map holds an entry exactly if a search for its key finds the value, so that a map is determined by
the order of its keys and by what is found under them.  Inserting a key changes the value of that
key only.
-/

namespace RestModel.OrderedMap

variable {κ α β : Type}

@[simp] theorem values_empty : (empty : OrderedMap κ α).values = [] := rfl

@[simp] theorem values_mapValues (f : α → β) (map : OrderedMap κ α) :
    (map.mapValues f).values = map.values.map f := by
  simp [values, mapValues, Function.comp_def]

@[simp] theorem isEmpty_mapValues (f : α → β) (map : OrderedMap κ α) :
    (map.mapValues f).isEmpty = map.isEmpty := by
  simp [isEmpty, mapValues]

theorem nodup_keys (map : OrderedMap κ α) : map.keys.Nodup :=
  map.nodup

/-- The map of the entries that pass a test, in their order. -/
def filter (keep : κ → α → Bool) (map : OrderedMap κ α) : OrderedMap κ α where
  entries := map.entries.filter (fun entry => keep entry.1 entry.2)
  nodup := map.nodup.sublist (List.filter_sublist.map Prod.fst)

/-- Entries of one key are the same entry. -/
theorem eq_of_mem_entries {map : OrderedMap κ α} {key : κ} {left right : α}
    (hleft : (key, left) ∈ map.entries) (hright : (key, right) ∈ map.entries) : left = right := by
  have hsame : (key, left) = (key, right) := List.inj_on_of_nodup_map map.nodup hleft hright rfl
  exact congrArg Prod.snd hsame

variable [DecidableEq κ]

/-! ## Searching -/

theorem lookup_eq_some_iff {entries : List (κ × α)} (hnodup : (entries.map Prod.fst).Nodup)
    {key : κ} {value : α} : entries.lookup key = some value ↔ (key, value) ∈ entries := by
  induction entries with
  | nil => simp
  | cons entry rest ih =>
      obtain ⟨first, old⟩ := entry
      rw [List.map_cons, List.nodup_cons] at hnodup
      rw [List.lookup_cons, List.mem_cons, Prod.mk.injEq, ← ih hnodup.2]
      by_cases hkey : key = first
      · have habsent : rest.lookup key ≠ some value := by
          rw [ne_eq, ih hnodup.2, hkey]
          exact fun hmem => hnodup.1 (List.mem_map.mpr ⟨_, hmem, rfl⟩)
        simp [hkey, eq_comm, hkey ▸ habsent]
      · simp [hkey, beq_false_of_ne hkey]

theorem get?_eq_some_iff {map : OrderedMap κ α} {key : κ} {value : α} :
    map.get? key = some value ↔ (key, value) ∈ map.entries :=
  lookup_eq_some_iff map.nodup

theorem mem_keys_iff {map : OrderedMap κ α} {key : κ} :
    key ∈ map.keys ↔ ∃ value, map.get? key = some value := by
  simp only [keys, List.mem_map, get?_eq_some_iff, Prod.exists, exists_and_right, exists_eq_right]

theorem isEmpty_of_get?_eq_some {map : OrderedMap κ α} {key : κ} {value : α}
    (hfound : map.get? key = some value) : map.isEmpty = false :=
  List.isEmpty_eq_false_iff_exists_mem.mpr ⟨_, get?_eq_some_iff.mp hfound⟩

/-- The entries are the keys in order, each with what is found under it. -/
theorem entries_eq_map_keys {map : OrderedMap κ α} (valueOf : κ → α)
    (hvalue : ∀ key value, map.get? key = some value → valueOf key = value) :
    map.entries = map.keys.map (fun key => (key, valueOf key)) := by
  have hsame : ∀ entry ∈ map.entries, (entry.1, valueOf entry.1) = entry := by
    intro entry hmem
    rw [hvalue entry.1 entry.2 (get?_eq_some_iff.mpr hmem)]
  rw [keys, List.map_map]
  exact (List.map_congr_left hsame).trans (List.map_id _) |>.symm

theorem get?_filter (keep : κ → α → Bool) (map : OrderedMap κ α) (key : κ) :
    (map.filter keep).get? key = (map.get? key).filter (keep key) := by
  ext value
  rw [get?_eq_some_iff, Option.filter_eq_some_iff, get?_eq_some_iff, filter, List.mem_filter]

theorem mem_keys_insert {map : OrderedMap κ α} {key other : κ} {value : α} :
    other ∈ (map.insert key value).keys ↔ other = key ∨ other ∈ map.keys := by
  rw [keys_insert]
  split
  · next hpresent =>
    refine ⟨Or.inr, fun hmem => ?_⟩
    rcases hmem with hsame | hold
    · exact hsame ▸ hpresent
    · exact hold
  · rw [List.mem_append, List.mem_singleton, or_comm]

theorem mem_values_insertEntry {key : κ} {new value : α} {entries : List (κ × α)}
    (hmem : value ∈ (insertEntry key new entries).map Prod.snd) :
    value = new ∨ value ∈ entries.map Prod.snd := by
  induction entries with
  | nil => simpa [insertEntry] using hmem
  | cons entry rest ih =>
      obtain ⟨other, old⟩ := entry
      by_cases hsame : other = key
      · simp only [insertEntry, if_pos hsame, List.map_cons, List.mem_cons] at hmem ⊢
        exact hmem.imp_right Or.inr
      · simp only [insertEntry, if_neg hsame, List.map_cons, List.mem_cons] at hmem ⊢
        rcases hmem with rfl | hrest
        · exact Or.inr (Or.inl rfl)
        · exact (ih hrest).imp_right Or.inr

theorem mem_values_insert {map : OrderedMap κ α} {key : κ} {new value : α}
    (hmem : value ∈ (map.insert key new).values) : value = new ∨ value ∈ map.values :=
  mem_values_insertEntry hmem

@[simp] theorem isEmpty_insert (map : OrderedMap κ α) (key : κ) (value : α) :
    (map.insert key value).isEmpty = false := by
  obtain ⟨entries, _⟩ := map
  cases entries with
  | nil => rfl
  | cons entry rest =>
      simp only [isEmpty, insert, insertEntry]
      split <;> rfl

theorem lookup_insertEntry (key other : κ) (value : α) (entries : List (κ × α)) :
    (insertEntry key value entries).lookup other =
      if other = key then some value else entries.lookup other := by
  induction entries with
  | nil =>
      by_cases hother : other = key
      · simp [insertEntry, hother]
      · simp [insertEntry, List.lookup_cons, hother, beq_false_of_ne hother]
  | cons entry rest ih =>
      obtain ⟨first, old⟩ := entry
      by_cases hfirst : first = key
      · subst hfirst
        by_cases hother : other = first
        · simp [insertEntry, hother]
        · simp [insertEntry, List.lookup_cons, hother, beq_false_of_ne hother]
      · by_cases hother : other = first
        · subst hother
          simp [insertEntry, hfirst]
        · rw [insertEntry, if_neg hfirst, List.lookup_cons, List.lookup_cons,
            beq_false_of_ne hother, ih]

theorem get?_insert (map : OrderedMap κ α) (key other : κ) (value : α) :
    (map.insert key value).get? other = if other = key then some value else map.get? other :=
  lookup_insertEntry key other value map.entries

theorem insertEntry_of_not_mem {key : κ} (value : α) {entries : List (κ × α)}
    (hfresh : key ∉ entries.map Prod.fst) :
    insertEntry key value entries = entries ++ [(key, value)] := by
  induction entries with
  | nil => rfl
  | cons entry rest ih =>
      obtain ⟨other, old⟩ := entry
      rw [List.map_cons, List.mem_cons, not_or] at hfresh
      rw [insertEntry, if_neg (Ne.symm hfresh.1), ih hfresh.2, List.cons_append]

/-- A new key comes last. -/
theorem entries_insert_of_not_mem {map : OrderedMap κ α} {key : κ} (value : α)
    (hfresh : key ∉ map.keys) : (map.insert key value).entries = map.entries ++ [(key, value)] :=
  insertEntry_of_not_mem value hfresh

/-- Of several pairs inserted for one key the last one counts. -/
theorem get?_foldl_insert (pairs : List (κ × α)) (map : OrderedMap κ α) (key : κ) :
    (pairs.foldl (fun map pair => map.insert pair.1 pair.2) map).get? key =
      (pairs.reverse.lookup key).or (map.get? key) := by
  induction pairs generalizing map with
  | nil => rfl
  | cons pair rest ih =>
      obtain ⟨first, value⟩ := pair
      rw [List.foldl_cons, ih, get?_insert, List.reverse_cons, List.lookup_append, Option.or_assoc]
      by_cases hkey : key = first
      · simp [hkey]
      · simp [hkey, List.lookup_cons, beq_false_of_ne hkey]

@[simp] theorem get?_empty (key : κ) : (empty : OrderedMap κ α).get? key = none := rfl

theorem lookup_map_snd (f : α → β) (entries : List (κ × α)) (key : κ) :
    (entries.map (fun entry => (entry.1, f entry.2))).lookup key =
      (entries.lookup key).map f := by
  induction entries with
  | nil => rfl
  | cons entry rest ih =>
      rw [List.map_cons, List.lookup_cons, List.lookup_cons, ih]
      split <;> rfl

theorem get?_mapValues (f : α → β) (map : OrderedMap κ α) (key : κ) :
    (map.mapValues f).get? key = (map.get? key).map f :=
  lookup_map_snd f map.entries key

end RestModel.OrderedMap

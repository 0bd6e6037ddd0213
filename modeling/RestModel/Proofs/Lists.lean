import Mathlib.Data.List.Forall2
import Mathlib.Data.List.Induction
import Mathlib.Data.List.Nodup

/-!
# Lists

Facts about lists that say nothing about types: what a search through pairs finds, lists in step,
and lists without repetitions.
-/

namespace RestModel

variable {α β : Type}

/-- What is found behind a key stands there. -/
theorem mem_of_lookup_reverse [BEq α] [LawfulBEq α] {pairs : List (α × β)} {key : α} {value : β}
    (hfound : pairs.reverse.lookup key = some value) : (key, value) ∈ pairs := by
  obtain ⟨front, back, hpairs, -⟩ := List.lookup_eq_some_iff.mp hfound
  rw [← List.mem_reverse, hpairs]
  exact List.mem_append_right front List.mem_cons_self

/-- Leaving out pairs of other keys does not change what is found behind a key. -/
theorem lookup_filter_of_kept [BEq α] [LawfulBEq α] (keep : α → Bool) {key : α}
    (hkeep : keep key = true) (pairs : List (α × β)) :
    (pairs.filter (fun pair => keep pair.1)).lookup key = pairs.lookup key := by
  induction pairs with
  | nil => rfl
  | cons pair rest ih =>
      obtain ⟨other, value⟩ := pair
      by_cases hsame : key = other
      · subst hsame
        simp [hkeep]
      · have hskipped : ((other, value) :: rest).lookup key = rest.lookup key := by
          rw [List.lookup_cons, beq_false_of_ne hsame]
        rw [hskipped, ← ih, List.filter_cons]
        split
        · rw [List.lookup_cons, beq_false_of_ne hsame]
        · rfl

/-- The elements that a partial function is defined on are in step with its values. -/
theorem forall₂_filter_filterMap (f : α → Option β) (list : List α) :
    List.Forall₂ (fun element value => f element = some value)
      (list.filter (fun element => (f element).isSome)) (list.filterMap f) := by
  induction list with
  | nil => exact .nil
  | cons element rest ih =>
      rw [List.filter_cons, List.filterMap_cons]
      cases hvalue : f element with
      | none => exact ih
      | some value => exact .cons hvalue ih

/-- Putting an element at the end if it is new is inserting it, but for the order. -/
theorem perm_insert_of_append_new [DecidableEq α] (element : α) (list : List α) :
    (if element ∈ list then list else list ++ [element]).Perm (list.insert element) := by
  split
  · next hmem => rw [List.insert_of_mem hmem]
  · next hfresh =>
    rw [List.insert_of_not_mem hfresh]
    exact List.perm_append_singleton element list

theorem eraseDups_concat [BEq α] [LawfulBEq α] [DecidableEq α] (list : List α) (last : α) :
    (list ++ [last]).eraseDups =
      if last ∈ list.eraseDups then list.eraseDups else list.eraseDups ++ [last] := by
  rw [List.eraseDups_append, List.removeAll, List.filter_singleton, List.elem_eq_contains]
  by_cases hmem : last ∈ list
  · simp [hmem]
  · simp [hmem, List.eraseDups_cons]

theorem nodup_eraseDups [DecidableEq α] (list : List α) : list.eraseDups.Nodup := by
  induction list using List.reverseRecOn with
  | nil => exact List.nodup_nil
  | append_singleton list last ih =>
      rw [eraseDups_concat]
      split
      · exact ih
      · next hfresh =>
        rw [← List.concat_eq_append]
        exact ih.concat hfresh

/-- It does not matter whether elements are left out before or after repetitions are. -/
theorem eraseDups_filter [DecidableEq α] (keep : α → Bool) (list : List α) :
    (list.filter keep).eraseDups = list.eraseDups.filter keep := by
  induction list using List.reverseRecOn with
  | nil => rfl
  | append_singleton list last ih =>
      rw [List.filter_append, eraseDups_concat]
      cases hlast : keep last with
      | true =>
          rw [List.filter_cons_of_pos hlast, List.filter_nil, eraseDups_concat, ih]
          simp only [List.mem_filter, hlast, and_true]
          split
          · rfl
          · rw [List.filter_append, List.filter_cons_of_pos hlast, List.filter_nil]
      | false =>
          have hnone : [last].filter keep = [] := by
            rw [List.filter_cons_of_neg (by simp [hlast]), List.filter_nil]
          rw [hnone, List.append_nil, ih]
          split
          · rfl
          · rw [List.filter_append, hnone, List.append_nil]

end RestModel

import Mathlib.Data.Bool.Basic
import Mathlib.Data.List.Induction
import Mathlib.Data.Prod.Lex
import RestModel.Registry.TypeDef

/-!
# The simplest path

Paths are ranked by whether they have a parameter and then by their length in bytes.  The simplest
of some paths is the first one of the least rank.  One more path behind the others takes its place
or leaves it as it is.
-/

namespace RestModel.Path

/-- Some segment of the path begins with an opening brace. -/
def HasParameter (path : String) : Prop :=
  ∃ segment ∈ segments path, ['\x7b'] <+: segment.toList

theorem hasParameters_iff {path : String} : hasParameters path = true ↔ HasParameter path := by
  rw [hasParameters, List.any_eq_true, HasParameter]
  apply exists_congr
  intro segment
  apply and_congr_right
  intro _
  rw [Naming.isParameter, beq_iff_eq, List.head?_eq_some_iff]
  constructor
  · rintro ⟨rest, hrest⟩
    exact ⟨rest, hrest.symm⟩
  · rintro ⟨rest, hrest⟩
    exact ⟨rest, hrest.symm⟩

instance : DecidablePred HasParameter := fun _ => decidable_of_iff _ hasParameters_iff

/-- What is compared to choose among paths: whether there is a parameter, then the length. -/
def rank (path : String) : Bool ×ₗ Nat :=
  toLex (decide (HasParameter path), path.utf8ByteSize)

theorem decide_hasParameter (path : String) : decide (HasParameter path) = hasParameters path := by
  rw [Bool.eq_iff_iff, decide_eq_true_eq, hasParameters_iff]

theorem isSimpler_iff {left right : String} :
    isSimpler left right = true ↔ rank left < rank right := by
  rw [isSimpler, rank, rank, decide_hasParameter, decide_hasParameter, Prod.Lex.toLex_lt_toLex]
  cases hasParameters left <;> cases hasParameters right <;> simp

/-- The paths whose rank no other one is below, in their order. -/
def leastRanked (paths : List String) : List String :=
  paths.filter (fun path => ∀ other ∈ paths, rank path ≤ rank other)

/-- The path stands in the list, the paths before it have greater ranks, and those behind it do not
have lesser ones. -/
def IsFirstLeast (path : String) (paths : List String) : Prop :=
  ∃ front back, paths = front ++ path :: back ∧ (∀ other ∈ front, rank path < rank other) ∧
    ∀ other ∈ back, rank path ≤ rank other

theorem IsFirstLeast.rank_le {path other : String} {paths : List String}
    (hfirst : IsFirstLeast path paths) (hmem : other ∈ paths) : rank path ≤ rank other := by
  obtain ⟨front, back, rfl, hfront, hback⟩ := hfirst
  rcases List.mem_append.mp hmem with hbefore | hbehind
  · exact (hfront other hbefore).le
  · rcases List.mem_cons.mp hbehind with rfl | hlater
    · exact le_rfl
    · exact hback other hlater

theorem IsFirstLeast.head?_leastRanked {path : String} {paths : List String}
    (hfirst : IsFirstLeast path paths) : (leastRanked paths).head? = some path := by
  have hleast : ∀ other ∈ paths, rank path ≤ rank other := fun _ => hfirst.rank_le
  obtain ⟨front, back, hpaths, hfront, -⟩ := hfirst
  have hnone : front.filter (fun candidate => ∀ other ∈ paths, rank candidate ≤ rank other) =
      [] := by
    rw [List.filter_eq_nil_iff]
    intro candidate hcandidate
    rw [decide_eq_true_eq]
    intro hcandidateLeast
    have hpath : path ∈ paths := hpaths ▸ List.mem_append_right front List.mem_cons_self
    exact (hfront candidate hcandidate).not_ge (hcandidateLeast path hpath)
  calc
    (leastRanked paths).head?
        = ((front ++ path :: back).filter (fun candidate =>
            ∀ other ∈ paths, rank candidate ≤ rank other)).head? := by
      rw [leastRanked, ← hpaths]
    _ = some path := by
      rw [List.filter_append, hnone, List.nil_append,
        List.filter_cons_of_pos (by simpa only [decide_eq_true_eq] using hleast), List.head?_cons]

/-- A path behind the others is the first one of the least rank if it is simpler than the one that
was, and otherwise leaves that one in place. -/
theorem IsFirstLeast.concat {path : String} {paths : List String}
    (hfirst : IsFirstLeast path paths) (next : String) :
    IsFirstLeast (if isSimpler next path then next else path) (paths ++ [next]) := by
  have hleast : ∀ other ∈ paths, rank path ≤ rank other := fun _ => hfirst.rank_le
  obtain ⟨front, back, hpaths, hfront, hback⟩ := hfirst
  split
  · next hsimpler =>
    have hless := isSimpler_iff.mp hsimpler
    exact ⟨paths, [], rfl, fun other hmem => hless.trans_le (hleast other hmem), by simp⟩
  · next hother =>
    have hnext : rank path ≤ rank next := not_lt.mp (mt isSimpler_iff.mpr hother)
    refine ⟨front, back ++ [next], ?_, hfront, ?_⟩
    · rw [hpaths, List.append_assoc, List.cons_append]
    · intro other hmem
      rcases List.mem_append.mp hmem with hbehind | hlast
      · exact hback other hbehind
      · rw [List.mem_singleton.mp hlast]
        exact hnext

/-- The search keeps the simplest path so far, or takes the next one if that is simpler. -/
theorem simplest?_concat (paths : List String) (next : String) :
    simplest? (paths ++ [next]) = match simplest? paths with
      | some path => some (if isSimpler next path then next else path)
      | none => some next := by
  cases paths with
  | nil => rfl
  | cons first rest => rw [List.cons_append, simplest?, List.foldl_append]; rfl

theorem simplest?_eq_none_iff {paths : List String} : simplest? paths = none ↔ paths = [] := by
  cases paths <;> simp [simplest?]

theorem isFirstLeast_of_simplest? {path : String} {paths : List String}
    (hfound : simplest? paths = some path) : IsFirstLeast path paths := by
  induction paths using List.reverseRecOn generalizing path with
  | nil => exact absurd hfound (by simp [simplest?])
  | append_singleton paths next ih =>
      rw [simplest?_concat] at hfound
      cases hbefore : simplest? paths with
      | none =>
          rw [hbefore] at hfound
          obtain rfl := Option.some.inj hfound
          obtain rfl := simplest?_eq_none_iff.mp hbefore
          exact ⟨[], [], rfl, by simp, by simp⟩
      | some best =>
          rw [hbefore] at hfound
          obtain rfl := Option.some.inj hfound
          exact (ih hbefore).concat next

/-- The simplest path is the first one of those of the least rank. -/
theorem simplest?_eq_head?_leastRanked (paths : List String) :
    simplest? paths = (leastRanked paths).head? := by
  cases hfound : simplest? paths with
  | some path => exact (isFirstLeast_of_simplest? hfound).head?_leastRanked.symm
  | none => rw [simplest?_eq_none_iff.mp hfound]; rfl

theorem simplest?_concat_eq (paths : List String) (next : String) :
    simplest? (paths ++ [next]) = simplest? paths ∨ simplest? (paths ++ [next]) = some next := by
  rw [simplest?_concat]
  cases simplest? paths with
  | none => exact Or.inr rfl
  | some path =>
      dsimp only
      split
      · exact Or.inr rfl
      · exact Or.inl rfl

end RestModel.Path

import RestModel.Endpoint
import RestModel.Proofs.Path.Module

/-!
# The endpoints of a collection

Every path that declares the read method is an endpoint, once and as it is written in the map.  The
endpoints are ordered by their number of segments, and those of one number stand in map order.  An
endpoint whose suffix occurred before is reported together with the first endpoint of that suffix,
so that suffixes without a report are distinct.
-/

namespace RestModel.Endpoints

variable {typeName readMethod : String} {paths : OrderedMap String (List String)}

/-! ## The paths of the endpoints -/

/-- The paths that declare the method, in map order. -/
def readPaths (paths : OrderedMap String (List String)) (readMethod : String) : List String :=
  (paths.entries.filter (fun entry => entry.2.contains readMethod)).map Prod.fst

/-- Whether a path has at most as many segments as another one. -/
def isNoLonger (left right : String) : Bool :=
  (Path.segments left).length ≤ (Path.segments right).length

/-- One path comes before another: it has fewer segments, or as many and its place among the keys of
the map is earlier. -/
def Precedes (paths : OrderedMap String (List String)) (left right : String) : Prop :=
  (Path.segments left).length < (Path.segments right).length ∨
    (Path.segments left).length = (Path.segments right).length ∧
      [left, right].Sublist paths.keys

theorem mem_readPaths {path : String} : path ∈ readPaths paths readMethod ↔
    ∃ methods, (path, methods) ∈ paths.entries ∧ readMethod ∈ methods := by
  simp [readPaths]

theorem readPaths_sublist : (readPaths paths readMethod).Sublist paths.keys :=
  List.filter_sublist.map Prod.fst

theorem nodup_readPaths : (readPaths paths readMethod).Nodup :=
  paths.nodup.sublist readPaths_sublist

theorem map_path_named (sorted : List (List String)) :
    (named sorted).map Endpoint.path = sorted.map Path.ofSegments := by
  cases sorted with
  | nil => rfl
  | cons shortest others => simp [named, Function.comp_def]

theorem sortByLength_readSegments (paths : OrderedMap String (List String))
    (readMethod : String) : sortByLength (readSegments paths readMethod) =
      ((readPaths paths readMethod).mergeSort isNoLonger).map Path.segments := by
  have hsegments : readSegments paths readMethod =
      (readPaths paths readMethod).map Path.segments := by
    rw [readSegments, readPaths, List.map_map]
    rfl
  rw [hsegments, sortByLength]
  symm
  apply List.map_mergeSort
  intro left _ right _
  rfl

/-- The paths of the endpoints are the read paths, sorted by their number of segments. -/
theorem map_path_ofPaths (typeName : String) (paths : OrderedMap String (List String))
    (readMethod : String) :
    (ofPaths typeName paths readMethod).endpoints.map Endpoint.path =
      (readPaths paths readMethod).mergeSort isNoLonger := by
  calc
    (ofPaths typeName paths readMethod).endpoints.map Endpoint.path =
        (sortByLength (readSegments paths readMethod)).map Path.ofSegments := map_path_named _
    _ = ((readPaths paths readMethod).mergeSort isNoLonger).map
          (fun path => Path.ofSegments (Path.segments path)) := by
      rw [sortByLength_readSegments, List.map_map]
      rfl
    _ = (readPaths paths readMethod).mergeSort isNoLonger := by
      simp only [Path.ofSegments_segments, List.map_id']

theorem isNoLonger_trans (first second third : String) (hfirst : isNoLonger first second = true)
    (hsecond : isNoLonger second third = true) : isNoLonger first third = true := by
  simp only [isNoLonger, decide_eq_true_eq] at *
  exact Nat.le_trans hfirst hsecond

theorem isNoLonger_total (left right : String) :
    (isNoLonger left right || isNoLonger right left) = true := by
  simp only [isNoLonger, Bool.or_eq_true, decide_eq_true_eq]
  exact Nat.le_total _ _

/-- Sorting keeps the paths of one length in their order. -/
theorem filter_mergeSort (unsorted : List String) (length : Nat) :
    (unsorted.mergeSort isNoLonger).filter (fun path => (Path.segments path).length = length) =
      unsorted.filter (fun path => (Path.segments path).length = length) := by
  have hequal : (unsorted.filter (fun path => (Path.segments path).length = length)).Pairwise
      (fun left right => isNoLonger left right = true) := by
    rw [List.pairwise_iff_forall_sublist]
    intro left right hpair
    have hleft := (List.mem_filter.mp (hpair.subset List.mem_cons_self)).2
    have hright :=
      (List.mem_filter.mp (hpair.subset (List.mem_cons_of_mem left List.mem_cons_self))).2
    simp only [decide_eq_true_eq] at hleft hright
    simp [isNoLonger, hleft, hright]
  have hsublist := (List.sublist_mergeSort isNoLonger_trans isNoLonger_total hequal
    List.filter_sublist).filter (fun path => (Path.segments path).length = length)
  rw [List.filter_filter] at hsublist
  simp only [Bool.and_self] at hsublist
  symm
  apply hsublist.eq_of_length
  exact ((List.mergeSort_perm unsorted isNoLonger).filter _).symm.length_eq

theorem pairwise_precedes_mergeSort (paths : OrderedMap String (List String))
    (readMethod : String) :
    ((readPaths paths readMethod).mergeSort isNoLonger).Pairwise (Precedes paths) := by
  have hsorted := List.pairwise_mergeSort isNoLonger_trans isNoLonger_total
    (readPaths paths readMethod)
  rw [List.pairwise_iff_forall_sublist] at hsorted ⊢
  intro left right hpair
  have hle : (Path.segments left).length ≤ (Path.segments right).length := by
    simpa [isNoLonger] using hsorted hpair
  rcases Nat.lt_or_eq_of_le hle with hless | hequal
  · exact Or.inl hless
  · right
    refine ⟨hequal, ?_⟩
    -- Two paths of one length stand in the same order before and after sorting.
    have htogether := hpair.filter
      (fun path => (Path.segments path).length = (Path.segments right).length)
    rw [filter_mergeSort] at htogether
    simp only [List.filter_cons, hequal, decide_true, if_true, List.filter_nil] at htogether
    exact htogether.trans (List.filter_sublist.trans readPaths_sublist)

/-! ## The collisions of the endpoints -/

/-- The collision of an endpoint with the first of the endpoints before it that has its suffix. -/
def collisionWith? (typeName : String) (before : List Endpoint) (endpoint : Endpoint) :
    Option Collision :=
  (before.find? (·.suffix == endpoint.suffix)).map (fun first =>
    ⟨typeName, endpoint.suffix, first.path, endpoint.path⟩)

/-- The collisions of all endpoints with the endpoints before them, in order. -/
def repeatedSuffixes (typeName : String) (endpoints : List Endpoint) : List Collision :=
  endpoints.zipIdx.filterMap (fun entry =>
    collisionWith? typeName (endpoints.take entry.2) entry.1)

theorem collisionWith?_eq_none_iff {before : List Endpoint} {endpoint : Endpoint} :
    collisionWith? typeName before endpoint = none ↔
      ∀ earlier ∈ before, earlier.suffix ≠ endpoint.suffix := by
  simp [collisionWith?]

/-- What is kept of the endpoints read so far finds the first endpoint of each suffix. -/
theorem collisionsFrom_eq_filterMap {seen : List Endpoint} (before rest : List Endpoint)
    (hseen : ∀ suffix, seen.find? (·.suffix == suffix) = before.find? (·.suffix == suffix)) :
    collisionsFrom typeName seen rest = (rest.zipIdx before.length).filterMap (fun entry =>
      collisionWith? typeName ((before ++ rest).take entry.2) entry.1) := by
  induction rest generalizing seen before with
  | nil => rfl
  | cons endpoint rest ih =>
      have hmoved : before ++ endpoint :: rest = (before ++ [endpoint]) ++ rest := by simp
      have hlength : before.length + 1 = (before ++ [endpoint]).length := by simp
      rw [collisionsFrom, List.zipIdx_cons, List.filterMap_cons, List.take_left' rfl, hseen,
        collisionWith?]
      cases hfirst : before.find? (·.suffix == endpoint.suffix) with
      | some first =>
          have hkept : ∀ suffix, seen.find? (·.suffix == suffix) =
              (before ++ [endpoint]).find? (·.suffix == suffix) := by
            intro suffix
            rw [hseen, List.find?_append]
            by_cases hsame : endpoint.suffix = suffix
            · rw [← hsame, hfirst]
              rfl
            · simp [hsame]
          rw [ih _ hkept, hmoved, hlength]
          rfl
      | none =>
          have hadded : ∀ suffix, (seen ++ [endpoint]).find? (·.suffix == suffix) =
              (before ++ [endpoint]).find? (·.suffix == suffix) := by
            intro suffix
            rw [List.find?_append, List.find?_append, hseen]
          rw [ih _ hadded, hmoved, hlength]
          rfl

theorem collisions_ofPaths (typeName : String) (paths : OrderedMap String (List String))
    (readMethod : String) : (ofPaths typeName paths readMethod).collisions =
      repeatedSuffixes typeName (ofPaths typeName paths readMethod).endpoints :=
  collisionsFrom_eq_filterMap [] _ (fun _ => rfl)

/-- Nothing is reported exactly if the suffixes are distinct. -/
theorem repeatedSuffixes_eq_nil_iff {endpoints : List Endpoint} :
    repeatedSuffixes typeName endpoints = [] ↔ (endpoints.map Endpoint.suffix).Nodup := by
  rw [repeatedSuffixes, List.filterMap_eq_nil_iff, List.Nodup, List.pairwise_map,
    List.pairwise_iff_getElem]
  simp only [collisionWith?_eq_none_iff]
  constructor
  · intro hnone earlier later hearlier hlater hless
    apply hnone (endpoints[later], later)
    · rw [List.mk_mem_zipIdx_iff_getElem?]
      exact List.getElem?_eq_getElem hlater
    · rw [List.mem_take_iff_getElem]
      exact ⟨earlier, by omega, rfl⟩
  · rintro hdistinct ⟨endpoint, later⟩ hentry other hother
    obtain ⟨hlater, rfl⟩ := List.getElem?_eq_some_iff.mp
      (List.mk_mem_zipIdx_iff_getElem?.mp hentry)
    obtain ⟨earlier, hearlier, rfl⟩ := List.mem_take_iff_getElem.mp hother
    exact hdistinct earlier later (by omega) hlater (by omega)

/-! ## Endpoints and collisions together -/

theorem suffix_head?_named {sorted : List (List String)} {first : Endpoint}
    (hfirst : (named sorted).head? = some first) : first.suffix = "" := by
  cases sorted with
  | nil => exact absurd hfirst (by simp [named])
  | cons shortest others =>
      rw [named, List.head?_cons, Option.some.injEq] at hfirst
      rw [← hfirst]

/-- The endpoints are the paths that declare the read method, each once, by their number of segments
and then in map order.  The first has the empty suffix.  Exactly the endpoints whose suffix occurred
before are reported, so that the suffixes are distinct if and only if nothing is reported. -/
theorem ofPaths_keeps_paths_and_reports_repeats (typeName : String)
    (paths : OrderedMap String (List String)) (readMethod : String) :
    (∀ path, path ∈ (ofPaths typeName paths readMethod).endpoints.map Endpoint.path ↔
      ∃ methods, (path, methods) ∈ paths.entries ∧ readMethod ∈ methods) ∧
    ((ofPaths typeName paths readMethod).endpoints.map Endpoint.path).Nodup ∧
    ((ofPaths typeName paths readMethod).endpoints.map Endpoint.path).Pairwise (Precedes paths) ∧
    (∀ first, (ofPaths typeName paths readMethod).endpoints.head? = some first →
      first.suffix = "") ∧
    (ofPaths typeName paths readMethod).collisions =
      repeatedSuffixes typeName (ofPaths typeName paths readMethod).endpoints ∧
    (((ofPaths typeName paths readMethod).endpoints.map Endpoint.suffix).Nodup ↔
      (ofPaths typeName paths readMethod).collisions = []) := by
  have hpaths := map_path_ofPaths typeName paths readMethod
  have hperm := List.mergeSort_perm (readPaths paths readMethod) isNoLonger
  refine ⟨?_, ?_, ?_, ?_, ?_, ?_⟩
  · intro path
    rw [hpaths, hperm.mem_iff, mem_readPaths]
  · rw [hpaths, hperm.nodup_iff]
    exact nodup_readPaths
  · rw [hpaths]
    exact pairwise_precedes_mergeSort paths readMethod
  · intro first hfirst
    exact suffix_head?_named hfirst
  · exact collisions_ofPaths typeName paths readMethod
  · rw [collisions_ofPaths, repeatedSuffixes_eq_nil_iff]

end RestModel.Endpoints

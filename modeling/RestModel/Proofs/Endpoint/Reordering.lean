import Mathlib.Data.Finset.Card
import RestModel.Proofs.Endpoint.Suffix
import RestModel.Proofs.OrderedMap

/-!
# Endpoints and the order of paths

Paths of one number of segments are named in the order in which they were declared, so the order
decides which of several shortest paths is the first endpoint.  It decides nothing else: what all
paths share does not depend on the order, hence neither do the suffixes of the other paths, nor how
many of the suffixes occur before.
-/

namespace RestModel.Endpoints

variable {readMethod : String} {paths others : OrderedMap String (List String)}

/-! ## Suffixes of single paths -/

/-- The path of the first endpoint. -/
def firstPath? (found : Endpoints) : Option String :=
  found.endpoints.head?.map Endpoint.path

/-- The endpoints of a path have one suffix, and there is such an endpoint. -/
def IsSuffixOf (found : Endpoints) (path suffix : String) : Prop :=
  ∀ other, ⟨other, path⟩ ∈ found.endpoints ↔ other = suffix

theorem readPaths_perm (hperm : paths.entries.Perm others.entries) :
    (readPaths paths readMethod).Perm (readPaths others readMethod) :=
  (hperm.filter _).map Prod.fst

/-- What suffixes skip does not depend on the order of the paths. -/
theorem skippedLength_perm
    (hperm : (readPaths paths readMethod).Perm (readPaths others readMethod)) :
    skippedLength paths readMethod = skippedLength others readMethod := by
  by_cases hread : readPaths paths readMethod = []
  · have hother : readPaths others readMethod = [] := List.nil_perm.mp (hread ▸ hperm)
    rw [skippedLength, skippedLength, sortByLength_readSegments, sortByLength_readSegments, hread,
      hother]
  · have hother : readPaths others readMethod ≠ [] :=
      fun hempty => hread (List.perm_nil.mp (hempty ▸ hperm))
    obtain ⟨shared, hshared, hlength⟩ := exists_isSharedBeginning hread
    obtain ⟨second, hsecond, hsecondLength⟩ := exists_isSharedBeginning hother
    rw [hlength, hsecondLength]
    exact (hshared.of_mem_iff fun _ => (hperm.map Path.segments).mem_iff).length_eq hsecond

theorem firstPath?_ofPaths (typeName : String) {first : String} {rest : List String}
    (hsorted : (readPaths paths readMethod).mergeSort isNoLonger = first :: rest) :
    (ofPaths typeName paths readMethod).firstPath? = some first := by
  rw [firstPath?, endpoints_eq_cons typeName hsorted]
  rfl

theorem isSuffixOf_of_ne_first {typeName path : String} (hpath : path ∈ readPaths paths readMethod)
    (hfirst : (ofPaths typeName paths readMethod).firstPath? ≠ some path) :
    (ofPaths typeName paths readMethod).IsSuffixOf path
      (suffixOf (skippedLength paths readMethod) (Path.segments path)) := by
  obtain ⟨first, rest, hsorted⟩ := exists_sorted_eq_cons (List.ne_nil_of_mem hpath)
  have hendpoints := endpoints_eq_cons typeName hsorted
  have hne : path ≠ first := by
    rintro rfl
    exact hfirst (firstPath?_ofPaths typeName hsorted)
  have hrest : path ∈ rest := by
    have hmem := (List.mergeSort_perm _ isNoLonger).mem_iff.mpr hpath
    rw [hsorted] at hmem
    exact (List.mem_cons.mp hmem).resolve_left hne
  intro other
  rw [hendpoints, List.mem_cons, List.mem_map]
  constructor
  · rintro (hhead | ⟨place, -, hplace⟩)
    · exact absurd (congrArg Endpoint.path hhead) hne
    · injection hplace with hsuffix hsame
      rw [← hsuffix, hsame]
  · rintro rfl
    exact .inr ⟨path, hrest, rfl⟩

/-! ## One shortest path -/

/-- Exactly one of the read paths has the smallest number of segments.  A single read path is one
case. -/
def HasOneShortest (paths : OrderedMap String (List String)) (readMethod : String) : Prop :=
  ∃ shortest ∈ readPaths paths readMethod, ∀ path ∈ readPaths paths readMethod,
    path ≠ shortest → (Path.segments shortest).length < (Path.segments path).length

theorem sorted_eq_cons_of_shortest {shortest : String}
    (hmem : shortest ∈ readPaths paths readMethod)
    (hshortest : ∀ path ∈ readPaths paths readMethod, path ≠ shortest →
      (Path.segments shortest).length < (Path.segments path).length) :
    ∃ rest, (readPaths paths readMethod).mergeSort isNoLonger = shortest :: rest := by
  obtain ⟨first, rest, hsorted⟩ := exists_sorted_eq_cons (List.ne_nil_of_mem hmem)
  have hperm := List.mergeSort_perm (readPaths paths readMethod) isNoLonger
  have hfirst : first ∈ readPaths paths readMethod :=
    hperm.mem_iff.mp (hsorted ▸ List.mem_cons_self)
  by_cases hsame : first = shortest
  · exact ⟨rest, hsame ▸ hsorted⟩
  · have horder := List.pairwise_mergeSort isNoLonger_trans isNoLonger_total
      (readPaths paths readMethod)
    rw [hsorted, List.pairwise_cons] at horder
    have hrest : shortest ∈ rest := by
      have hsecond := hperm.mem_iff.mpr hmem
      rw [hsorted] at hsecond
      exact (List.mem_cons.mp hsecond).resolve_left (Ne.symm hsame)
    have hle : (Path.segments first).length ≤ (Path.segments shortest).length := by
      simpa [isNoLonger] using horder.1 shortest hrest
    exact absurd (hshortest first hfirst hsame) (Nat.not_lt.mpr hle)

theorem firstPath?_of_shortest (typeName : String) {shortest : String}
    (hmem : shortest ∈ readPaths paths readMethod)
    (hshortest : ∀ path ∈ readPaths paths readMethod, path ≠ shortest →
      (Path.segments shortest).length < (Path.segments path).length) :
    (ofPaths typeName paths readMethod).firstPath? = some shortest := by
  obtain ⟨rest, hsorted⟩ := sorted_eq_cons_of_shortest hmem hshortest
  exact firstPath?_ofPaths typeName hsorted

theorem perm_endpoints (typeName : String)
    (hperm : (readPaths paths readMethod).Perm (readPaths others readMethod))
    (hone : HasOneShortest paths readMethod) :
    (ofPaths typeName paths readMethod).endpoints.Perm
      (ofPaths typeName others readMethod).endpoints := by
  obtain ⟨shortest, hmem, hshortest⟩ := hone
  obtain ⟨rest, hsorted⟩ := sorted_eq_cons_of_shortest hmem hshortest
  obtain ⟨otherRest, hotherSorted⟩ := sorted_eq_cons_of_shortest (hperm.mem_iff.mp hmem)
    fun path hpath => hshortest path (hperm.mem_iff.mpr hpath)
  have hrest : rest.Perm otherRest := by
    rw [← List.perm_cons shortest, ← hsorted, ← hotherSorted]
    exact (List.mergeSort_perm _ _).trans (hperm.trans (List.mergeSort_perm _ _).symm)
  rw [endpoints_eq_cons typeName hsorted, endpoints_eq_cons typeName hotherSorted,
    skippedLength_perm hperm]
  exact (hrest.map _).cons _

/-- Of the endpoints of one suffix all but one are reported. -/
theorem length_collisionsFrom_add_card (typeName : String) (seen rest : List Endpoint) :
    (collisionsFrom typeName seen rest).length +
        ((seen ++ rest).map Endpoint.suffix).toFinset.card =
      (seen.map Endpoint.suffix).toFinset.card + rest.length := by
  induction rest generalizing seen with
  | nil => simp [collisionsFrom]
  | cons endpoint rest ih =>
      have hmoved : seen ++ endpoint :: rest = (seen ++ [endpoint]) ++ rest := by simp
      rw [collisionsFrom, List.length_cons]
      cases hfound : seen.find? (·.suffix == endpoint.suffix) with
      | some first =>
          have hseen : endpoint.suffix ∈ (seen.map Endpoint.suffix).toFinset := by
            rw [List.mem_toFinset, List.mem_map]
            exact ⟨first, List.mem_of_find?_eq_some hfound, by simpa using List.find?_some hfound⟩
          have hsame : ((seen ++ endpoint :: rest).map Endpoint.suffix).toFinset =
              ((seen ++ rest).map Endpoint.suffix).toFinset := by
            ext suffix
            simp only [List.mem_toFinset, List.map_append, List.map_cons, List.mem_append,
              List.mem_cons] at hseen ⊢
            grind
          rw [hsame, List.length_cons]
          have hrest := ih seen
          omega
      | none =>
          have hfresh : endpoint.suffix ∉ (seen.map Endpoint.suffix).toFinset := by
            simpa [List.mem_toFinset] using hfound
          have hcard : ((seen ++ [endpoint]).map Endpoint.suffix).toFinset.card =
              (seen.map Endpoint.suffix).toFinset.card + 1 := by
            rw [List.map_append, List.toFinset_append, List.map_singleton, Finset.union_comm]
            simp [hfresh]
          have hrest := ih (seen ++ [endpoint])
          rw [hmoved]
          change (collisionsFrom typeName (seen ++ [endpoint]) rest).length + _ = _
          omega

theorem length_collisions_of_perm (typeName : String) {left right : List Endpoint}
    (hperm : left.Perm right) :
    (collisionsFrom typeName [] left).length = (collisionsFrom typeName [] right).length := by
  have hleft := length_collisionsFrom_add_card typeName [] left
  have hright := length_collisionsFrom_add_card typeName [] right
  have hsuffixes : ((([] : List Endpoint) ++ left).map Endpoint.suffix).toFinset =
      (([] ++ right).map Endpoint.suffix).toFinset :=
    List.toFinset_eq_of_perm _ _ (hperm.map _)
  have hlength := hperm.length_eq
  rw [hsuffixes] at hleft
  omega

/-! ## Reordered and omitted entries -/

/-- Entries that do not declare the read method may be left out. -/
theorem ofPaths_filter (typeName : String) {keep : String → List String → Bool}
    (hkeep : ∀ entry ∈ paths.entries, readMethod ∈ entry.2 → keep entry.1 entry.2 = true) :
    ofPaths typeName (paths.filter keep) readMethod = ofPaths typeName paths readMethod := by
  have hsame : readSegments (paths.filter keep) readMethod = readSegments paths readMethod := by
    rw [readSegments, readSegments, OrderedMap.filter, List.filter_filter]
    apply congrArg (List.map _)
    apply List.filter_congr
    intro entry hentry
    cases hdeclares : entry.2.contains readMethod with
    | false => rfl
    | true => exact hkeep entry hentry (List.contains_iff_mem.mp hdeclares)
  rw [ofPaths, hsame, ofPaths]

/-- Two collections whose paths are declared in different orders give the same suffix to every read
path that is the first endpoint of neither.  With only one shortest read path they have the same
endpoints and as many collisions.  Entries without the read method count for nothing. -/
theorem suffixes_of_reordered_paths (typeName readMethod : String)
    {paths others : OrderedMap String (List String)} (hperm : paths.entries.Perm others.entries) :
    (∀ path ∈ readPaths paths readMethod,
      (ofPaths typeName paths readMethod).firstPath? ≠ some path →
      (ofPaths typeName others readMethod).firstPath? ≠ some path →
      ∃ suffix, (ofPaths typeName paths readMethod).IsSuffixOf path suffix ∧
        (ofPaths typeName others readMethod).IsSuffixOf path suffix) ∧
    (HasOneShortest paths readMethod →
      (ofPaths typeName paths readMethod).endpoints.Perm
          (ofPaths typeName others readMethod).endpoints ∧
        (ofPaths typeName paths readMethod).collisions.length =
          (ofPaths typeName others readMethod).collisions.length) ∧
    ∀ keep : String → List String → Bool,
      (∀ entry ∈ paths.entries, readMethod ∈ entry.2 → keep entry.1 entry.2 = true) →
      ofPaths typeName (paths.filter keep) readMethod = ofPaths typeName paths readMethod := by
  have hread : (readPaths paths readMethod).Perm (readPaths others readMethod) :=
    readPaths_perm hperm
  refine ⟨?_, ?_, fun keep hkeep => ofPaths_filter typeName hkeep⟩
  · intro path hpath hfirst hotherFirst
    have hother := isSuffixOf_of_ne_first (hread.mem_iff.mp hpath) hotherFirst
    rw [← skippedLength_perm hread] at hother
    exact ⟨_, isSuffixOf_of_ne_first hpath hfirst, hother⟩
  · intro hone
    have hendpoints := perm_endpoints typeName hread hone
    exact ⟨hendpoints, length_collisions_of_perm typeName hendpoints⟩

/-- The paths on which the users of a system and of two kinds of groups can be read. -/
def userPaths : OrderedMap String (List String) :=
  .ofList [("/a/\x7bx\x7d/users", ["GET"]), ("/users", ["GET", "POST"]), ("/admins", ["POST"]),
    ("/a/\x7by\x7d/users", ["GET"])]

/-- The same paths in another order. -/
def reorderedUserPaths : OrderedMap String (List String) :=
  .ofList [("/users", ["GET", "POST"]), ("/a/\x7by\x7d/users", ["GET"]), ("/admins", ["POST"]),
    ("/a/\x7bx\x7d/users", ["GET"])]

theorem suffixes_of_reorderedUserPaths :
    userPaths.entries.Perm reorderedUserPaths.entries ∧
    (∃ suffix, (ofPaths "user" userPaths "GET").IsSuffixOf "/a/\x7bx\x7d/users" suffix ∧
      (ofPaths "user" reorderedUserPaths "GET").IsSuffixOf "/a/\x7bx\x7d/users" suffix) ∧
    (HasOneShortest userPaths "GET" ∧
      (ofPaths "user" userPaths "GET").endpoints.Perm
          (ofPaths "user" reorderedUserPaths "GET").endpoints ∧
        (ofPaths "user" userPaths "GET").collisions.length =
          (ofPaths "user" reorderedUserPaths "GET").collisions.length) ∧
    ofPaths "user" (userPaths.filter (fun path _ => path != "/admins")) "GET" =
      ofPaths "user" userPaths "GET" := by
  have hperm : userPaths.entries.Perm reorderedUserPaths.entries := by decide
  have hpath : "/a/\x7bx\x7d/users" ∈ readPaths userPaths "GET" := by decide
  have hone : HasOneShortest userPaths "GET" := ⟨"/users", by decide⟩
  have hfirst : (ofPaths "user" userPaths "GET").firstPath? = some "/users" :=
    firstPath?_of_shortest "user" (by decide) (by decide)
  have hotherFirst : (ofPaths "user" reorderedUserPaths "GET").firstPath? = some "/users" :=
    firstPath?_of_shortest "user" (by decide) (by decide)
  have hne : some "/users" ≠ some "/a/\x7bx\x7d/users" := by decide
  have hkeep : ∀ entry ∈ userPaths.entries, "GET" ∈ entry.2 → (entry.1 != "/admins") = true := by
    decide
  obtain ⟨hsuffix, hendpoints, hfilter⟩ :=
    suffixes_of_reordered_paths "user" "GET" hperm
  exact ⟨hperm, hsuffix _ hpath (hfirst ▸ hne) (hotherFirst ▸ hne), ⟨hone, hendpoints hone⟩,
    hfilter _ hkeep⟩

end RestModel.Endpoints

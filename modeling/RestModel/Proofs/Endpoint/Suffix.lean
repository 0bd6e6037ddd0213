import RestModel.Proofs.Endpoint

/-!
# What suffixes name

The read paths of a collection begin with the same segments, at least with none.  Suffixes skip the
longest such beginning, which is no longer than the shortest path, and name the segments behind it
that are no parameters.
-/

namespace RestModel.Endpoints

variable {readMethod : String} {paths : OrderedMap String (List String)}

/-! ## What all paths share -/

/-- A list is the longest one with which all paths begin. -/
structure IsSharedBeginning (shared : List String) (paths : List (List String)) : Prop where
  begins : ∀ path ∈ paths, shared <+: path
  longest : ∀ other, (∀ path ∈ paths, other <+: path) → other.length ≤ shared.length

theorem IsSharedBeginning.of_mem_iff {shared : List String} {paths others : List (List String)}
    (hshared : IsSharedBeginning shared paths) (hmem : ∀ path, path ∈ paths ↔ path ∈ others) :
    IsSharedBeginning shared others where
  begins path hpath := hshared.begins path ((hmem path).mpr hpath)
  longest other hother := hshared.longest other fun path hpath => hother path ((hmem path).mp hpath)

/-- Paths share beginnings of one greatest length only. -/
theorem IsSharedBeginning.length_eq {shared other : List String} {paths : List (List String)}
    (hshared : IsSharedBeginning shared paths) (hother : IsSharedBeginning other paths) :
    shared.length = other.length :=
  Nat.le_antisymm (hother.longest shared hshared.begins) (hshared.longest other hother.begins)

theorem commonLength_le (shortest : List String) (paths : List (List String)) :
    commonLength shortest paths ≤ shortest.length := by
  induction shortest generalizing paths with
  | nil => exact Nat.le_refl 0
  | cons segment rest ih =>
      rw [commonLength, List.length_cons]
      split
      · exact Nat.succ_le_succ (ih _)
      · exact Nat.zero_le _

/-- Every path begins with the segments that the scan has passed. -/
theorem take_commonLength_isPrefix {shortest path : List String} {paths : List (List String)}
    (hmem : path ∈ paths) : shortest.take (commonLength shortest paths) <+: path := by
  induction shortest generalizing paths path with
  | nil => exact List.nil_prefix
  | cons segment rest ih =>
      rw [commonLength]
      split
      · next hall =>
        have hhead : path.head? = some segment := by
          simpa using List.all_eq_true.mp hall path hmem
        obtain ⟨behind, rfl⟩ := List.head?_eq_some_iff.mp hhead
        have htail : behind ∈ paths.map List.tail := List.mem_map_of_mem hmem
        rw [List.take_succ_cons, List.cons_prefix_cons]
        exact ⟨rfl, ih htail⟩
      · exact List.nil_prefix

/-- The scan passes every list with which all paths begin. -/
theorem length_le_commonLength {other shortest : List String} {paths : List (List String)}
    (hshortest : other <+: shortest) (hall : ∀ path ∈ paths, other <+: path) :
    other.length ≤ commonLength shortest paths := by
  induction shortest generalizing other paths with
  | nil => rw [List.prefix_nil.mp hshortest]; exact Nat.zero_le _
  | cons segment rest ih =>
      cases other with
      | nil => exact Nat.zero_le _
      | cons first behind =>
          obtain ⟨rfl, hbehind⟩ := List.cons_prefix_cons.mp hshortest
          have hhead : paths.all (fun path => path.head? == some first) = true := by
            rw [List.all_eq_true]
            intro path hpath
            obtain ⟨back, rfl⟩ := hall path hpath
            simp
          have htails : ∀ tail ∈ paths.map List.tail, behind <+: tail := by
            intro tail htail
            obtain ⟨path, hpath, rfl⟩ := List.mem_map.mp htail
            obtain ⟨back, rfl⟩ := hall path hpath
            exact List.prefix_append behind back
          rw [commonLength, if_pos hhead, List.length_cons]
          exact Nat.succ_le_succ (ih hbehind htails)

/-- The scan stops behind the longest list with which all paths begin. -/
theorem isSharedBeginning_take (shortest : List String) (others : List (List String)) :
    IsSharedBeginning (shortest.take (commonLength shortest (shortest :: others)))
      (shortest :: others) where
  begins _ hpath := take_commonLength_isPrefix hpath
  longest other hall := by
    rw [List.length_take_of_le (commonLength_le shortest _)]
    exact length_le_commonLength (hall shortest List.mem_cons_self) hall

/-! ## What suffixes skip -/

/-- The number of leading segments that suffixes leave out when the sorted paths are named. -/
def sharedLength : List (List String) → Nat
  | [] => 0
  | shortest :: others => commonLength shortest (shortest :: others)

/-- The number of leading segments that the suffixes of a collection leave out. -/
def skippedLength (paths : OrderedMap String (List String)) (readMethod : String) : Nat :=
  sharedLength (sortByLength (readSegments paths readMethod))

/-- The segments of a path that its suffix names. -/
def namedSegments (skipped : Nat) (path : String) : List String :=
  ((Path.segments path).drop skipped).filter (!Naming.isParameter ·)

theorem intercalate_empty (texts : List String) : "".intercalate texts = String.join texts := by
  induction texts with
  | nil => simp
  | cons text rest ih =>
      cases rest with
      | nil => simp
      | cons next others =>
          rw [String.intercalate_cons_cons, ih, String.append_empty, ← String.join_cons]

theorem suffixOf_segments (skipped : Nat) (path : String) :
    suffixOf skipped (Path.segments path) = String.join ((namedSegments skipped path).map
      (fun segment => Naming.camelCase (Naming.capitalize segment))) := by
  rw [suffixOf, namedSegments, intercalate_empty]

/-- The first endpoint has the empty suffix, the others are named by their segments. -/
theorem endpoints_eq_cons (typeName : String) {first : String} {others : List String}
    (hsorted : (readPaths paths readMethod).mergeSort isNoLonger = first :: others) :
    (ofPaths typeName paths readMethod).endpoints = ⟨"", first⟩ :: others.map (fun path =>
      ⟨suffixOf (skippedLength paths readMethod) (Path.segments path), path⟩) := by
  rw [skippedLength, ofPaths, sortByLength_readSegments, hsorted, List.map_cons, named,
    sharedLength, List.map_map]
  simp only [Function.comp_def, Path.ofSegments_segments]

theorem exists_sorted_eq_cons (hread : readPaths paths readMethod ≠ []) :
    ∃ first others, (readPaths paths readMethod).mergeSort isNoLonger = first :: others := by
  apply List.exists_cons_of_ne_nil
  intro hempty
  apply hread
  rw [← List.length_eq_zero_iff, ← (List.mergeSort_perm _ isNoLonger).length_eq, hempty,
    List.length_nil]

theorem exists_isSharedBeginning (hread : readPaths paths readMethod ≠ []) :
    ∃ shared, IsSharedBeginning shared ((readPaths paths readMethod).map Path.segments) ∧
      skippedLength paths readMethod = shared.length := by
  obtain ⟨first, others, hsorted⟩ := exists_sorted_eq_cons hread
  have hshared := isSharedBeginning_take (Path.segments first) (others.map Path.segments)
  have hlength := commonLength_le (Path.segments first)
    (Path.segments first :: others.map Path.segments)
  have hmem : ∀ path, path ∈ Path.segments first :: others.map Path.segments ↔
      path ∈ (readPaths paths readMethod).map Path.segments := by
    intro path
    rw [← List.map_cons, ← hsorted]
    exact ((List.mergeSort_perm _ isNoLonger).map Path.segments).mem_iff
  refine ⟨_, hshared.of_mem_iff hmem, ?_⟩
  rw [List.length_take_of_le hlength, skippedLength, sortByLength_readSegments, hsorted,
    List.map_cons, sharedLength]

/-! ## Suffixes -/

/-- What suffixes name: they skip the longest beginning that all read paths share, which ends in
every path, and all but the first are made of the segments behind it that are no parameters, each
with a capital and in camel case.  So equal segments make equal suffixes. -/
structure NamesSegments (typeName : String) (paths : OrderedMap String (List String))
    (readMethod : String) : Prop where
  shared : ∃ shared, IsSharedBeginning shared ((readPaths paths readMethod).map Path.segments) ∧
    skippedLength paths readMethod = shared.length
  inside : ∀ path ∈ readPaths paths readMethod,
    skippedLength paths readMethod ≤ (Path.segments path).length
  suffix : ∀ endpoint ∈ (ofPaths typeName paths readMethod).endpoints.tail,
    endpoint.suffix = String.join
      ((namedSegments (skippedLength paths readMethod) endpoint.path).map
        (fun segment => Naming.camelCase (Naming.capitalize segment)))
  equal : ∀ left ∈ (ofPaths typeName paths readMethod).endpoints.tail,
    ∀ right ∈ (ofPaths typeName paths readMethod).endpoints.tail,
      namedSegments (skippedLength paths readMethod) left.path =
        namedSegments (skippedLength paths readMethod) right.path → left.suffix = right.suffix

theorem suffix_of_mem_tail {typeName : String} {endpoint : Endpoint}
    (hmem : endpoint ∈ (ofPaths typeName paths readMethod).endpoints.tail) :
    endpoint.suffix =
      suffixOf (skippedLength paths readMethod) (Path.segments endpoint.path) := by
  by_cases hread : readPaths paths readMethod = []
  · have hnone : (ofPaths typeName paths readMethod).endpoints = [] := by
      rw [← List.map_eq_nil_iff, map_path_ofPaths, hread, List.mergeSort_nil]
    rw [hnone] at hmem
    exact absurd hmem List.not_mem_nil
  · obtain ⟨first, others, hsorted⟩ := exists_sorted_eq_cons hread
    rw [endpoints_eq_cons typeName hsorted, List.tail_cons] at hmem
    obtain ⟨path, -, rfl⟩ := List.mem_map.mp hmem
    rfl

/-- The suffixes of a collection with at least two read paths name what these paths do not share. -/
theorem suffixes_name_segments (typeName : String) {paths : OrderedMap String (List String)}
    {readMethod : String} (hmany : 2 ≤ (readPaths paths readMethod).length) :
    NamesSegments typeName paths readMethod := by
  have hread : readPaths paths readMethod ≠ [] := List.ne_nil_of_length_pos (by omega)
  obtain ⟨shared, hshared, hlength⟩ := exists_isSharedBeginning hread
  refine ⟨⟨shared, hshared, hlength⟩, ?_, ?_, ?_⟩
  · intro path hpath
    rw [hlength]
    exact (hshared.begins _ (List.mem_map_of_mem hpath)).length_le
  · intro endpoint hmem
    rw [suffix_of_mem_tail hmem, suffixOf_segments]
  · intro left hleft right hright hsame
    rw [suffix_of_mem_tail hleft, suffix_of_mem_tail hright, suffixOf_segments, suffixOf_segments,
      hsame]

/-- The paths on which the devices of a system, of a group and of a room can be read. -/
def devicePaths : OrderedMap String (List String) :=
  .ofList [
    ("/api/rest/rooms/\x7broom-id\x7d/active-devices", ["GET"]),
    ("/api/rest/devices", ["POST", "GET"]),
    ("/api/rest/device-groups/\x7bgroup-id\x7d/devices", ["GET"])]

theorem suffixes_name_segments_devices : 2 ≤ (readPaths devicePaths "GET").length ∧
    NamesSegments "plcm-device" devicePaths "GET" := by
  have hmany : 2 ≤ (readPaths devicePaths "GET").length := by decide
  exact ⟨hmany, suffixes_name_segments _ hmany⟩

end RestModel.Endpoints

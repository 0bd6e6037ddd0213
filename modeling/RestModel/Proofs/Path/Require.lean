import RestModel.Proofs.Path.Module

/-!
# Module paths are the shortest ways

A module path climbs from the directory of its origin to the lowest directory that also holds the
target, and goes down from there.  It goes up once for each segment of the origin below that
directory, so it never climbs out of the root.
-/

namespace RestModel.Path

/-! ## Ways that stay below the root -/

/-- A segment that neither stays nor goes up. -/
def IsNamed (segment : String) : Prop :=
  segment ≠ "." ∧ segment ≠ ".."

instance : DecidablePred IsNamed := fun _ => inferInstanceAs (Decidable (_ ∧ _))

/-- The place to which one segment leads, if it does not go up from the root. -/
def stepBelow? (place : List String) (segment : String) : Option (List String) :=
  if segment = "." then some place
  else if segment = ".." then if place = [] then none else some place.dropLast
  else some (place ++ [segment])

/-- The place to which a path leads segment by segment, if it never goes up from the root. -/
def locateBelow? (place : List String) (path : String) : Option (List String) :=
  (segments path).foldlM stepBelow? place

theorem stepBelow?_of_isNamed {segment : String} (hnamed : IsNamed segment)
    (place : List String) : stepBelow? place segment = some (place ++ [segment]) := by
  rw [stepBelow?, if_neg hnamed.1, if_neg hnamed.2]

theorem stepBelow?_up {place : List String} (hbelow : place ≠ []) :
    stepBelow? place ".." = some place.dropLast := by
  rw [stepBelow?, if_neg (by decide), if_pos rfl, if_neg hbelow]

theorem foldlM_stepBelow?_of_isNamed {parts : List String} (hnamed : ∀ part ∈ parts, IsNamed part)
    (place : List String) : parts.foldlM stepBelow? place = some (place ++ parts) := by
  induction parts generalizing place with
  | nil => rw [List.foldlM_nil, List.append_nil]; rfl
  | cons part rest ih =>
      rw [List.foldlM_cons, stepBelow?_of_isNamed (hnamed part List.mem_cons_self),
        Option.bind_eq_bind, Option.bind_some,
        ih (fun other hother => hnamed other (List.mem_cons_of_mem part hother)),
        List.append_assoc, List.singleton_append]

/-- One can go up as often as there are segments. -/
theorem foldlM_stepBelow?_up {count : Nat} {place : List String} (hcount : count ≤ place.length) :
    (List.replicate count "..").foldlM stepBelow? place =
      some (place.take (place.length - count)) := by
  induction count generalizing place with
  | zero => rw [Nat.sub_zero, List.take_length]; rfl
  | succ count ih =>
      have hbelow : place ≠ [] := List.ne_nil_of_length_pos (by omega)
      have hrest : count ≤ place.dropLast.length := by
        rw [List.length_dropLast]
        omega
      rw [List.replicate_succ, List.foldlM_cons, stepBelow?_up hbelow, Option.bind_eq_bind,
        Option.bind_some, ih hrest, List.length_dropLast, List.dropLast_eq_take, List.take_take]
      congr 2
      omega

/-! ## The directory that holds both -/

/-- The beginning that two directories share: the lowest directory that holds both. -/
def sharedDirectory (origin target : List String) : List String :=
  origin.take (sharedLength origin target)

/-- A list is the longest one with which two lists begin. -/
structure IsLongestPrefix (shared left right : List String) : Prop where
  beginsLeft : shared <+: left
  beginsRight : shared <+: right
  longest : ∀ other, other <+: left → other <+: right → other.length ≤ shared.length

theorem sharedLength_le_right (left right : List String) :
    sharedLength left right ≤ right.length := by
  have hlength := congrArg List.length (take_sharedLength left right)
  rw [List.length_take, List.length_take, Nat.min_eq_left (sharedLength_le_left left right)]
    at hlength
  omega

theorem length_le_sharedLength {other left right : List String} (hleft : other <+: left)
    (hright : other <+: right) : other.length ≤ sharedLength left right := by
  induction left generalizing other right with
  | nil => rw [List.prefix_nil.mp hleft]; exact Nat.zero_le _
  | cons head rest ih =>
      cases other with
      | nil => exact Nat.zero_le _
      | cons first others =>
          obtain ⟨rfl, hrest⟩ := List.cons_prefix_cons.mp hleft
          cases right with
          | nil => exact absurd (List.prefix_nil.mp hright) (List.cons_ne_nil first others)
          | cons second tail =>
              obtain ⟨rfl, htail⟩ := List.cons_prefix_cons.mp hright
              rw [sharedLength, if_pos rfl, List.length_cons]
              exact Nat.succ_le_succ (ih hrest htail)

theorem length_sharedDirectory (origin target : List String) :
    (sharedDirectory origin target).length = sharedLength origin target := by
  rw [sharedDirectory, List.length_take, Nat.min_eq_left (sharedLength_le_left origin target)]

theorem isLongestPrefix_sharedDirectory (origin target : List String) :
    IsLongestPrefix (sharedDirectory origin target) origin target where
  beginsLeft := List.take_prefix _ origin
  beginsRight := by
    rw [sharedDirectory, take_sharedLength]
    exact List.take_prefix _ target
  longest other hleft hright := by
    rw [length_sharedDirectory]
    exact length_le_sharedLength hleft hright

/-! ## The way between two directories -/

/-- The beginning of a module path: as often up as needed, or a mark that it stays. -/
def climb (count : Nat) : List String :=
  if count = 0 then ["."] else List.replicate count ".."

theorem requireSegments_eq (origin target : List String) (file : String) :
    requireSegments origin target file =
      climb (origin.length - sharedLength origin target) ++
        (target.drop (sharedLength origin target) ++ [file]) := by
  rw [requireSegments, List.append_assoc, climb]
  simp only [List.isEmpty_iff, List.replicate_eq_nil_iff]

theorem foldlM_stepBelow?_climb {count : Nat} {place : List String}
    (hcount : count ≤ place.length) :
    (climb count).foldlM stepBelow? place = some (place.take (place.length - count)) := by
  rw [climb]
  split
  · next hzero =>
    rw [hzero, Nat.sub_zero, List.take_length]
    rfl
  · exact foldlM_stepBelow?_up hcount

theorem count_climb (count : Nat) : (climb count).count ".." = count := by
  rw [climb]
  split
  · next hzero => rw [hzero]; decide
  · exact List.count_replicate_self

/-- A way begins with one of two segments, and something follows. -/
theorem exists_climb_eq_cons (count : Nat) :
    ∃ first others, climb count = first :: others ∧ (first = "." ∨ first = "..") := by
  cases count with
  | zero => exact ⟨".", [], rfl, Or.inl rfl⟩
  | succ count => exact ⟨"..", List.replicate count "..", rfl, Or.inr rfl⟩

theorem isNamed_of_mem_down {origin target : List String} {file : String}
    (htarget : ∀ segment ∈ target, IsNamed segment) (hfile : IsNamed file) :
    ∀ segment ∈ target.drop (sharedLength origin target) ++ [file], IsNamed segment := by
  intro segment hmem
  rcases List.mem_append.mp hmem with htail | hlast
  · exact htarget segment (List.mem_of_mem_drop htail)
  · rw [List.mem_singleton.mp hlast]
    exact hfile

theorem foldlM_stepBelow?_requireSegments {origin target : List String} {file : String}
    (htarget : ∀ segment ∈ target, IsNamed segment) (hfile : IsNamed file) :
    (requireSegments origin target file).foldlM stepBelow? origin = some (target ++ [file]) := by
  have hle := sharedLength_le_left origin target
  calc
    (requireSegments origin target file).foldlM stepBelow? origin
        = (target.drop (sharedLength origin target) ++ [file]).foldlM stepBelow?
            (origin.take (sharedLength origin target)) := by
      rw [requireSegments_eq, List.foldlM_append, foldlM_stepBelow?_climb (Nat.sub_le _ _),
        Option.bind_eq_bind, Option.bind_some, Nat.sub_sub_self hle]
    _ = some (origin.take (sharedLength origin target) ++
          (target.drop (sharedLength origin target) ++ [file])) :=
      foldlM_stepBelow?_of_isNamed (isNamed_of_mem_down htarget hfile) _
    _ = some (target ++ [file]) := by
      rw [take_sharedLength, ← List.append_assoc, List.take_append_drop]

theorem count_requireSegments {origin target : List String} {file : String}
    (htarget : ∀ segment ∈ target, IsNamed segment) (hfile : IsNamed file) :
    (requireSegments origin target file).count ".." =
      origin.length - sharedLength origin target := by
  have hdown : (target.drop (sharedLength origin target) ++ [file]).count ".." = 0 := by
    rw [List.count_eq_zero]
    intro hup
    exact (isNamed_of_mem_down htarget hfile ".." hup).2 rfl
  rw [requireSegments_eq, List.count_append, count_climb, hdown, Nat.add_zero]

theorem begins_require (origin target file : String) :
    "./".toList <+: (require origin target file).toList ∨
      "../".toList <+: (require origin target file).toList := by
  obtain ⟨first, others, hclimb, hfirst⟩ := exists_climb_eq_cons
    ((directorySegments origin).length -
      sharedLength (directorySegments origin) (directorySegments target))
  obtain ⟨next, rest, hrest⟩ : ∃ next rest, others ++
      ((directorySegments target).drop
        (sharedLength (directorySegments origin) (directorySegments target)) ++ [file]) =
          next :: rest := List.exists_cons_of_ne_nil (by simp)
  have hpath : require origin target file = first ++ "/" ++ ofSegments (next :: rest) := by
    rw [require, requireSegments_eq, hclimb, List.cons_append, hrest, ofSegments_cons_cons]
  rw [hpath, String.toList_append]
  rcases hfirst with rfl | rfl
  · exact Or.inl (List.prefix_append _ _)
  · exact Or.inr (List.prefix_append _ _)

/-- A module path begins with a mark that it is relative and leads from the directory of its origin
to the file, without climbing out of the root.  It goes up once for each segment of the origin
beyond the directory that holds both, which is a beginning of both. -/
theorem require_leads_to_file (origin : String) {target file : String}
    (htarget : ∀ segment ∈ segments target, IsNamed segment) (hslash : '/' ∉ file.toList)
    (hfile : IsNamed file) :
    ("./".toList <+: (require origin target file).toList ∨
      "../".toList <+: (require origin target file).toList) ∧
    locateBelow? (directorySegments origin) (require origin target file) =
      some (directorySegments target ++ [file]) ∧
    (∃ shared, IsLongestPrefix shared (directorySegments origin) (directorySegments target) ∧
      (segments (require origin target file)).count ".." + shared.length =
        (directorySegments origin).length) ∧
    sharedLength (directorySegments origin) (directorySegments target) ≤
      (directorySegments origin).length ∧
    sharedLength (directorySegments origin) (directorySegments target) ≤
      (directorySegments target).length := by
  have hnamed : ∀ segment ∈ directorySegments target, IsNamed segment :=
    fun segment hmem => htarget segment ((List.mem_filter.mp hmem).1)
  have hsegments := segments_require origin target hslash
  have hle := sharedLength_le_left (directorySegments origin) (directorySegments target)
  refine ⟨begins_require origin target file, ?_, ?_, hle, sharedLength_le_right _ _⟩
  · rw [locateBelow?, hsegments, foldlM_stepBelow?_requireSegments hnamed hfile]
  · refine ⟨_, isLongestPrefix_sharedDirectory _ _, ?_⟩
    rw [hsegments, count_requireSegments hnamed hfile, length_sharedDirectory,
      Nat.sub_add_cancel hle]

/-- Directories may be written with more slashes than needed. -/
theorem require_leads_from_users_to_roles :
    require "api//users/new" "/api/roles" "plcm-role" = "../../roles/plcm-role" ∧
    locateBelow? ["api", "users", "new"] "../../roles/plcm-role" =
      some ["api", "roles", "plcm-role"] := by
  have hpath : require "api//users/new" "/api/roles" "plcm-role" = "../../roles/plcm-role" := by
    decide +kernel
  have htarget : ∀ segment ∈ segments "/api/roles", IsNamed segment := by decide +kernel
  have hslash : '/' ∉ "plcm-role".toList := by decide
  obtain ⟨-, hleads, -⟩ := require_leads_to_file "api//users/new" htarget hslash (by decide)
  rw [hpath] at hleads
  exact ⟨hpath, hleads⟩

end RestModel.Path

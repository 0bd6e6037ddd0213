import RestModel.Path.Module

/-!
# Where module paths lead

A path is followed segment by segment: an empty segment and `.` stay, `..` goes up, and any other
segment goes down.  Followed from the directory of its origin, a module path leads to the file that
it names, as long as the directories are written without `.` and `..`.
-/

namespace RestModel.Path

/-- The place to which one segment leads. -/
def step (place : List String) (segment : String) : List String :=
  if segment = "" ∨ segment = "." then place
  else if segment = ".." then place.dropLast
  else place ++ [segment]

/-- The place to which a path leads from a directory. -/
def locate (directory : List String) (path : String) : List String :=
  (segments path).foldl step directory

/-- A segment leads down. -/
def IsDown (segment : String) : Prop :=
  segment ≠ "" ∧ segment ≠ "." ∧ segment ≠ ".."

instance : DecidablePred IsDown := fun _ => inferInstanceAs (Decidable (_ ∧ _ ∧ _))

/-- A name that a file can have: one segment, which leads down. -/
def IsFileName (name : String) : Prop :=
  '/' ∉ name.toList ∧ IsDown name

instance : DecidablePred IsFileName := fun _ => inferInstanceAs (Decidable (_ ∧ _))

/-- A directory without `.` and `..`. -/
def IsPlain (directory : String) : Prop :=
  ∀ segment ∈ directorySegments directory, IsDown segment

instance : DecidablePred IsPlain := fun directory =>
  inferInstanceAs (Decidable (∀ segment ∈ directorySegments directory, IsDown segment))

/-! ## Segments -/

theorem segments_append_slash (front back : String) :
    segments (front ++ "/" ++ back) = segments front ++ segments back := by
  rw [segments, String.toList_append, String.toList_append, List.append_assoc]
  change ((front.toList ++ '/' :: back.toList).splitOn '/').map String.ofList = _
  rw [List.splitOn_append_cons_self, List.map_append]
  rfl

theorem segments_of_not_mem {name : String} (hslash : '/' ∉ name.toList) :
    segments name = [name] := by
  rw [segments, List.splitOn_eq_singleton hslash, List.map_singleton, String.ofList_toList]

theorem ofSegments_cons_cons (part next : String) (rest : List String) :
    ofSegments (part :: next :: rest) = part ++ "/" ++ ofSegments (next :: rest) := by
  rw [ofSegments, ofSegments, String.intercalate_cons_cons]

/-- Segments without slashes are found again in the path written from them. -/
theorem segments_ofSegments {parts : List String} (hparts : parts ≠ [])
    (hslash : ∀ part ∈ parts, '/' ∉ part.toList) : segments (ofSegments parts) = parts := by
  induction parts with
  | nil => exact absurd rfl hparts
  | cons part rest ih =>
      have hpart := hslash part List.mem_cons_self
      cases rest with
      | nil => rw [ofSegments, String.intercalate_singleton, segments_of_not_mem hpart]
      | cons next others =>
          rw [ofSegments_cons_cons, segments_append_slash, segments_of_not_mem hpart,
            ih (List.cons_ne_nil next others)
              (fun other hother => hslash other (List.mem_cons_of_mem part hother))]
          rfl

/-- A path is written again from its segments. -/
theorem ofSegments_segments (path : String) : ofSegments (segments path) = path := by
  have hparts : ((path.toList.splitOn '/').map String.ofList).map String.toList =
      path.toList.splitOn '/' := by
    simp [Function.comp_def]
  apply String.toList_injective
  rw [ofSegments, String.toList_intercalate, segments, hparts]
  exact List.intercalate_splitOn '/'

theorem not_mem_of_mem_splitOn {path part : List Char} (hmem : part ∈ path.splitOn '/') :
    '/' ∉ part := by
  induction path generalizing part with
  | nil =>
      rw [List.splitOn_nil, List.mem_singleton] at hmem
      rw [hmem]
      exact List.not_mem_nil
  | cons char rest ih =>
      rw [List.splitOn_cons_eq_if_modifyHead] at hmem
      split at hmem
      · rcases List.mem_cons.mp hmem with rfl | hrest
        · exact List.not_mem_nil
        · exact ih hrest
      · next hother =>
        cases hparts : rest.splitOn '/' with
        | nil => exact absurd hparts (List.splitOn_ne_nil '/' rest)
        | cons first others =>
            rw [hparts] at hmem ih
            rcases List.mem_cons.mp hmem with rfl | hrest
            · rw [List.mem_cons, not_or]
              refine ⟨?_, ih List.mem_cons_self⟩
              rintro rfl
              exact hother (beq_self_eq_true '/')
            · exact ih (List.mem_cons_of_mem first hrest)

theorem empty_not_mem_directorySegments (path : String) : "" ∉ directorySegments path := by
  simp [directorySegments]

theorem not_mem_of_mem_directorySegments {directory segment : String}
    (hmem : segment ∈ directorySegments directory) : '/' ∉ segment.toList := by
  obtain ⟨part, hpart, rfl⟩ := List.mem_map.mp (List.mem_filter.mp hmem).1
  rw [String.toList_ofList]
  exact not_mem_of_mem_splitOn hpart

/-! ## Following segments -/

theorem step_of_isDown {segment : String} (hdown : IsDown segment) (place : List String) :
    step place segment = place ++ [segment] := by
  obtain ⟨hempty, hstay, hup⟩ := hdown
  simp [step, hempty, hstay, hup]

theorem foldl_step_of_isDown {parts : List String} (hdown : ∀ part ∈ parts, IsDown part)
    (place : List String) : parts.foldl step place = place ++ parts := by
  induction parts generalizing place with
  | nil => simp
  | cons part rest ih =>
      rw [List.foldl_cons, step_of_isDown (hdown part List.mem_cons_self),
        ih (fun other hother => hdown other (List.mem_cons_of_mem part hother)),
        List.append_assoc, List.singleton_append]

/-- Empty segments stay in place, so a path leads where its other segments lead. -/
theorem foldl_step_filter (parts : List String) (place : List String) :
    (parts.filter (· != "")).foldl step place = parts.foldl step place := by
  induction parts generalizing place with
  | nil => rfl
  | cons part rest ih =>
      by_cases hempty : part = ""
      · subst hempty
        exact ih place
      · have hkept : (part :: rest).filter (· != "") = part :: rest.filter (· != "") :=
          List.filter_cons_of_pos (bne_iff_ne.mpr hempty)
        rw [hkept]
        exact ih (step place part)

theorem foldl_step_directorySegments (path : String) :
    (directorySegments path).foldl step [] = locate [] path :=
  foldl_step_filter (segments path) []

theorem foldl_step_of_isDown_filter {parts : List String}
    (hdown : ∀ part ∈ parts.filter (· != ""), IsDown part) (place : List String) :
    parts.foldl step place = place ++ parts.filter (· != "") := by
  rw [← foldl_step_filter, foldl_step_of_isDown hdown]

theorem foldl_step_up (count : Nat) (place : List String) :
    (List.replicate count "..").foldl step place = place.take (place.length - count) := by
  induction count generalizing place with
  | zero => simp
  | succ count ih =>
      have hup : step place ".." = place.dropLast := by simp [step]
      rw [List.replicate_succ, List.foldl_cons, hup, ih, List.length_dropLast,
        List.dropLast_eq_take, List.take_take]
      congr 1
      omega

/-! ## Module paths -/

theorem sharedLength_le_left (left right : List String) :
    sharedLength left right ≤ left.length := by
  induction left generalizing right with
  | nil => simp [sharedLength]
  | cons head rest ih =>
      cases right with
      | nil => simp [sharedLength]
      | cons other others =>
          rw [sharedLength]
          split
          · exact Nat.succ_le_succ (ih others)
          · exact Nat.zero_le _

theorem take_sharedLength (left right : List String) :
    left.take (sharedLength left right) = right.take (sharedLength left right) := by
  induction left generalizing right with
  | nil => simp [sharedLength]
  | cons head rest ih =>
      cases right with
      | nil => simp [sharedLength]
      | cons other others =>
          rw [sharedLength]
          split
          · next hsame => rw [List.take_succ_cons, List.take_succ_cons, ih others, hsame]
          · rfl

theorem foldl_step_requireSegments {origin target : List String} {file : String}
    (htarget : ∀ segment ∈ target, IsDown segment) (hfile : IsDown file) :
    (requireSegments origin target file).foldl step origin = target ++ [file] := by
  have hle := sharedLength_le_left origin target
  have hclimb : (if (List.replicate (origin.length - sharedLength origin target) "..").isEmpty
        then ["."] else List.replicate (origin.length - sharedLength origin target) "..").foldl
      step origin = target.take (sharedLength origin target) := by
    rw [← take_sharedLength]
    split
    · next hnone =>
      have hlength : origin.length ≤ sharedLength origin target := by
        rw [List.isEmpty_iff, List.replicate_eq_nil_iff] at hnone
        exact Nat.le_of_sub_eq_zero hnone
      rw [List.take_of_length_le hlength]
      rfl
    · rw [foldl_step_up, Nat.sub_sub_self hle]
  have hrest : ∀ segment ∈ target.drop (sharedLength origin target), IsDown segment :=
    fun segment hmem => htarget segment (List.mem_of_mem_drop hmem)
  rw [requireSegments, List.foldl_append, List.foldl_append, hclimb, foldl_step_of_isDown hrest,
    List.take_append_drop, List.foldl_cons, step_of_isDown hfile]
  rfl

/-- A module path has the segments it was written from. -/
theorem segments_require (origin target : String) {file : String} (hslash : '/' ∉ file.toList) :
    segments (require origin target file) =
      requireSegments (directorySegments origin) (directorySegments target) file := by
  apply segments_ofSegments
  · simp [requireSegments]
  · intro segment hmem
    rw [requireSegments, List.mem_append, List.mem_append, List.mem_singleton] at hmem
    rcases hmem with (hclimb | htail) | rfl
    · split at hclimb
      · simp_all
      · rw [List.eq_of_mem_replicate hclimb]
        decide
    · exact not_mem_of_mem_directorySegments (List.mem_of_mem_drop htail)
    · exact hslash

/-- From the directory of its origin, a module path leads to the file it names. -/
theorem locate_require {origin target file : String} (htarget : IsPlain target)
    (hfile : IsFileName file) :
    locate (directorySegments origin) (require origin target file) =
      directorySegments target ++ [file] := by
  rw [locate, segments_require origin target hfile.1, foldl_step_requireSegments htarget hfile.2]

/-- The file of a directory lies where its path says. -/
theorem locate_source {directory file : String} (hplain : IsPlain directory)
    (hfile : IsFileName file) :
    locate [] (source directory file) = directorySegments directory ++ [file] := by
  have hlast : segments file = [file] := segments_of_not_mem hfile.1
  rw [locate, source]
  split
  · next hroot =>
    rw [hlast, hroot, List.foldl_cons, step_of_isDown hfile.2]
    rfl
  · rw [segments_append_slash, hlast, List.foldl_append,
      foldl_step_of_isDown_filter hplain, List.foldl_cons, step_of_isDown hfile.2]
    rfl

end RestModel.Path

import RestModel.Path.File
import RestModel.Proofs.Path.Module

/-!
# Paths that stay inside a directory

A relative path without `..` leads below every directory to which it is joined.  The path of a
generated file is of this kind unless the name of its type begins with a slash or goes up.
-/

namespace RestModel.Path

/-- A path is relative and no segment of it goes up. -/
def IsInside (path : String) : Prop :=
  path.toList.head? ≠ some '/' ∧ ".." ∉ segments path

instance : DecidablePred IsInside := fun _ => inferInstanceAs (Decidable (_ ∧ _))

/-! ## Joining -/

theorem prefix_step {segment : String} (hup : segment ≠ "..") (place : List String) :
    place <+: step place segment := by
  rw [step]
  split
  · exact List.prefix_rfl
  · exact List.prefix_append place [segment]

theorem prefix_foldl_step {parts : List String} (hup : ".." ∉ parts) (place : List String) :
    place <+: parts.foldl step place := by
  induction parts generalizing place with
  | nil => exact List.prefix_rfl
  | cons part rest ih =>
      rw [List.mem_cons, not_or] at hup
      exact (prefix_step (Ne.symm hup.1) place).trans (ih hup.2 (step place part))

theorem locate_append_slash (place : List String) (front back : String) :
    locate place (front ++ "/" ++ back) = locate (locate place front) back := by
  rw [locate, segments_append_slash, List.foldl_append]
  rfl

/-- A relative path is followed from the directory to which it is joined. -/
theorem locate_join {path : String} (hrelative : path.toList.head? ≠ some '/')
    (directory : String) :
    locate [] (join directory path) = locate (locate [] directory) path := by
  rw [join]
  split
  · next hcases =>
    rw [hcases.resolve_left hrelative]
    rfl
  · split
    · next hslash =>
      obtain ⟨front, hfront⟩ := List.getLast?_eq_some_iff.mp hslash
      have hdirectory : directory = String.ofList front ++ "/" ++ "" := by
        apply String.toList_injective
        rw [hfront, String.append_empty, String.toList_append, String.toList_ofList]
        rfl
      rw [hdirectory, locate_append_slash, String.append_empty, locate_append_slash]
      rfl
    · exact locate_append_slash [] directory path

theorem prefix_locate_join {path : String} (hinside : IsInside path) (directory : String) :
    locate [] directory <+: locate [] (join directory path) := by
  rw [locate_join hinside.1]
  exact prefix_foldl_step hinside.2 (locate [] directory)

/-! ## Names with an extension -/

/-- An extension belongs to the last segment. -/
theorem segments_append (name : String) : ∃ front last, ∀ extension : String,
    '/' ∉ extension.toList → segments (name ++ extension) = front ++ [last ++ extension] := by
  by_cases hslash : '/' ∈ name.toList
  · obtain ⟨behind, before, hsplit, hlast⟩ :=
      List.eq_append_cons_of_mem (List.mem_reverse.mpr hslash)
    have hname : name = String.ofList before.reverse ++ "/" ++ String.ofList behind.reverse := by
      apply String.toList_injective
      rw [← List.reverse_reverse name.toList, hsplit]
      simp
    refine ⟨segments (String.ofList before.reverse), String.ofList behind.reverse, ?_⟩
    intro extension hextension
    have hpart : '/' ∉ (String.ofList behind.reverse ++ extension).toList := by
      simp [hlast, hextension]
    rw [hname, String.append_assoc, segments_append_slash, segments_of_not_mem hpart]
  · refine ⟨[], name, ?_⟩
    intro extension hextension
    apply segments_of_not_mem
    rw [String.toList_append, List.mem_append, not_or]
    exact ⟨hslash, hextension⟩

/-- An extension that is long enough keeps the last segment from going up. -/
def IsExtension (extension : String) : Prop :=
  '/' ∉ extension.toList ∧ 3 ≤ extension.toList.length

instance : DecidablePred IsExtension := fun _ => inferInstanceAs (Decidable (_ ∧ _))

theorem isDown_append {extension : String} (hextension : IsExtension extension) (name : String) :
    IsDown (name ++ extension) := by
  have hlong : ∀ short : String, short.toList.length < 3 → name ++ extension ≠ short := by
    rintro short hshort rfl
    have hthree := hextension.2
    rw [String.toList_append, List.length_append] at hshort
    omega
  exact ⟨hlong "" (by decide), hlong "." (by decide), hlong ".." (by decide)⟩

theorem up_mem_segments_append_iff {extension : String} (hextension : IsExtension extension)
    (name : String) :
    ".." ∈ segments (name ++ extension) ↔ ".." ∈ (segments name).dropLast := by
  obtain ⟨front, last, hsegments⟩ := segments_append name
  have hname : segments name = front ++ [last] := by
    have hempty := hsegments "" List.not_mem_nil
    rwa [String.append_empty, String.append_empty] at hempty
  have hlast : ".." ≠ last ++ extension := Ne.symm (isDown_append hextension last).2.2
  rw [hsegments extension hextension.1, hname, List.dropLast_concat, List.mem_append,
    List.mem_singleton]
  exact or_iff_left hlast

theorem head?_append_extension {extension : String} (hextension : IsExtension extension)
    (name : String) :
    (name ++ extension).toList.head? = some '/' ↔ name.toList.head? = some '/' := by
  rw [String.toList_append, List.head?_append]
  cases name.toList.head? with
  | some first => exact Iff.rfl
  | none =>
      constructor
      · intro hfirst
        exact absurd (List.mem_of_head? hfirst) hextension.1
      · intro hfirst
        exact absurd hfirst (by simp)

/-- The files named after a type stay inside: no segment of the name goes up, except for the last
one, which gets an extension, and in the root directory the name does not begin with a slash. -/
def StaysInside (directory name : String) : Prop :=
  (directory = "" → name.toList.head? ≠ some '/') ∧ ".." ∉ (segments name).dropLast

instance (directory name : String) : Decidable (StaysInside directory name) :=
  inferInstanceAs (Decidable (_ ∧ _))

theorem staysInside_of_not_mem {name : String} (hslash : '/' ∉ name.toList)
    (directory : String) : StaysInside directory name := by
  constructor
  · intro _ hfirst
    exact hslash (List.mem_of_head? hfirst)
  · rw [segments_of_not_mem hslash]
    exact List.not_mem_nil

theorem isInside_source_iff {directory extension : String} (hdirectory : IsInside directory)
    (hextension : IsExtension extension) (name : String) :
    IsInside (source directory (name ++ extension)) ↔ StaysInside directory name := by
  have hsegments := up_mem_segments_append_iff hextension name
  rw [source]
  split
  · next hroot =>
    apply and_congr
    · rw [Ne, head?_append_extension hextension]
      exact (imp_iff_right hroot).symm
    · exact not_congr hsegments
  · next hbelow =>
    have hhead : (directory ++ "/" ++ (name ++ extension)).toList.head? ≠ some '/' := by
      obtain ⟨first, hfirst⟩ : ∃ first, directory.toList.head? = some first := by
        rw [← Option.isSome_iff_exists, List.isSome_head?, ne_eq, String.toList_eq_nil_iff]
        exact hbelow
      have hrelative := hdirectory.1
      rw [String.append_assoc, String.toList_append, List.head?_append, hfirst]
      rwa [hfirst] at hrelative
    rw [IsInside, StaysInside, segments_append_slash, List.mem_append, not_or, hsegments]
    constructor
    · rintro ⟨-, -, hup⟩
      exact ⟨fun hroot => absurd hroot hbelow, hup⟩
    · rintro ⟨-, hup⟩
      exact ⟨hhead, hdirectory.2, hup⟩

end RestModel.Path

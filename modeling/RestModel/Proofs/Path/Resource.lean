import Mathlib.Data.List.Destutter
import RestModel.Path.Resource

/-!
# Resource paths are joined paths

Each nested resource puts its path behind that of its parent, and every time runs of slashes are
written as one.  Doing so early makes no difference, so the path of a resource is the base path with
all the paths on the way down to the resource, joined at once.  It does not matter over how many
resources a path is spread.
-/

namespace RestModel.Path

/-! ## Runs of slashes -/

/-- Not both characters are slashes. -/
def KeepsApart (left right : Char) : Prop :=
  ¬(left = '/' ∧ right = '/')

instance : DecidableRel KeepsApart := fun _ _ => inferInstanceAs (Decidable (¬_))

/-- The path with every run of slashes written as one slash. -/
def withSingleSlashes (path : String) : String :=
  String.ofList (path.toList.destutter KeepsApart)

/-- The path begins with a slash, and no two slashes follow each other in it. -/
structure IsRooted (path : String) : Prop where
  rooted : ['/'] <+: path.toList
  single : ¬['/', '/'] <:+: path.toList

/-- Which slash of a run is kept makes no difference. -/
theorem collapse_cons (first : Char) (rest : List Char) :
    collapse (first :: rest) = rest.destutter' KeepsApart first := by
  induction rest generalizing first with
  | nil => rfl
  | cons second rest ih =>
      rw [collapse]
      by_cases hboth : first = '/' ∧ second = '/'
      · have htouch : ¬KeepsApart first second := not_not_intro hboth
        rw [if_pos hboth, List.destutter'_cons_neg _ htouch, ih, hboth.1, hboth.2]
      · have hapart : KeepsApart first second := hboth
        rw [if_neg hboth, List.destutter'_cons_pos _ hapart, ih]

theorem collapse_eq_destutter (path : List Char) : collapse path = path.destutter KeepsApart := by
  cases path with
  | nil => rfl
  | cons first rest => exact collapse_cons first rest

theorem isChain_collapse (path : List Char) : (collapse path).IsChain KeepsApart := by
  rw [collapse_eq_destutter]
  exact List.isChain_destutter KeepsApart path

@[simp] theorem collapse_collapse (path : List Char) : collapse (collapse path) = collapse path := by
  simp only [collapse_eq_destutter, List.destutter_idem]

theorem head?_collapse (path : List Char) : (collapse path).head? = path.head? := by
  fun_induction collapse path with
  | case1 => rfl
  | case2 => rfl
  | case3 first second rest hboth ih => rw [ih, hboth.1, hboth.2, List.head?_cons, List.head?_cons]
  | case4 => rfl

theorem exists_collapse_cons (first : Char) (rest : List Char) :
    ∃ others, collapse (first :: rest) = first :: others :=
  List.head?_eq_some_iff.mp (head?_collapse (first :: rest))

theorem getLast?_collapse (path : List Char) : (collapse path).getLast? = path.getLast? := by
  fun_induction collapse path with
  | case1 => rfl
  | case2 => rfl
  | case3 first second rest hboth ih => rw [ih, List.getLast?_cons_cons]
  | case4 first second rest hboth ih =>
      obtain ⟨others, hothers⟩ := exists_collapse_cons second rest
      rw [List.getLast?_cons_cons, ← ih, hothers, List.getLast?_cons_cons]

/-- Collapsing the front of a text first makes no difference. -/
theorem collapse_collapse_append (front back : List Char) :
    collapse (collapse front ++ back) = collapse (front ++ back) := by
  fun_induction collapse front with
  | case1 => rfl
  | case2 => rfl
  | case3 first second rest hboth ih =>
      rw [ih, List.cons_append, List.cons_append, List.cons_append, collapse, if_pos hboth]
  | case4 first second rest hboth ih =>
      -- The collapsed rest still begins with the second character.
      obtain ⟨others, hothers⟩ := exists_collapse_cons second rest
      rw [hothers] at ih ⊢
      calc
        collapse (first :: second :: others ++ back)
            = first :: collapse (second :: others ++ back) := by
          rw [List.cons_append, List.cons_append, collapse, if_neg hboth]
        _ = first :: collapse (second :: rest ++ back) := by rw [ih]
        _ = collapse (first :: second :: rest ++ back) := by
          rw [List.cons_append, List.cons_append, List.cons_append, collapse, if_neg hboth]

theorem isRooted_ofList_collapse {path : List Char} (hrooted : path.head? = some '/') :
    IsRooted (String.ofList (collapse path)) := by
  constructor
  · obtain ⟨rest, hrest⟩ := List.head?_eq_some_iff.mp ((head?_collapse path).trans hrooted)
    rw [String.toList_ofList, hrest]
    exact ⟨rest, rfl⟩
  · intro hdouble
    rw [String.toList_ofList] at hdouble
    have hapart := List.IsChain.infix (isChain_collapse path) hdouble
    rw [List.isChain_pair] at hapart
    exact hapart ⟨rfl, rfl⟩

/-! ## Base paths -/

theorem head?_dropWhile_append_slash (url : List Char) :
    (url.dropWhile (· != '/') ++ ['/']).head? = some '/' := by
  cases hrest : url.dropWhile (· != '/') with
  | nil => rfl
  | cons first rest =>
      have hfirst := List.head?_dropWhile_not (· != '/') url
      rw [hrest] at hfirst
      simpa using hfirst

theorem isRooted_base (url : String) : IsRooted (base url) :=
  isRooted_ofList_collapse (head?_dropWhile_append_slash _)

theorem getLast?_base (url : String) : (base url).toList.getLast? = some '/' := by
  rw [base, String.toList_ofList, getLast?_collapse, List.getLast?_concat]

theorem collapse_base (url : String) : collapse (base url).toList = (base url).toList := by
  rw [base, String.toList_ofList, collapse_collapse]

/-! ## Joined paths -/

/-- The paths that add something: those that are neither empty nor a lone slash. -/
def addedPaths (chain : List String) : List String :=
  chain.filter (fun path => path ≠ "" ∧ path ≠ "/")

/-- The text that the paths of a chain add, each of them behind a slash. -/
def addedText (chain : List String) : List Char :=
  (addedPaths chain).flatMap (fun path => '/' :: path.toList)

/-- A base path with all the paths of a chain of resources, joined by slashes. -/
def joined (base : String) (chain : List String) : String :=
  if addedPaths chain = [] then base
  else withSingleSlashes (base ++ "/" ++ "/".intercalate (addedPaths chain))

theorem addedText_cons_of_lost {path : String} (hlost : path = "" ∨ path = "/")
    (rest : List String) : addedText (path :: rest) = addedText rest := by
  have htest : ¬(path ≠ "" ∧ path ≠ "/") := by tauto
  rw [addedText, addedPaths, List.filter_cons_of_neg (by simpa only [decide_eq_true_eq] using htest)]
  rfl

theorem addedText_cons {path : String} (hadded : ¬(path = "" ∨ path = "/"))
    (rest : List String) :
    addedText (path :: rest) = '/' :: path.toList ++ addedText rest := by
  have htest : path ≠ "" ∧ path ≠ "/" := not_or.mp hadded
  rw [addedText, addedPaths, List.filter_cons_of_pos (by simpa only [decide_eq_true_eq] using htest),
    List.flatMap_cons]
  rfl

theorem cons_toList_intercalate {parts : List String} (hparts : parts ≠ []) :
    '/' :: ("/".intercalate parts).toList = parts.flatMap (fun part => '/' :: part.toList) := by
  induction parts with
  | nil => exact absurd rfl hparts
  | cons part rest ih =>
      cases rest with
      | nil => rw [String.intercalate_singleton, List.flatMap_singleton]
      | cons next others =>
          have hrest := ih (List.cons_ne_nil next others)
          rw [String.intercalate_cons_cons, String.toList_append, String.toList_append,
            List.flatMap_cons, ← hrest, List.append_assoc]
          rfl

/-- Collapsing at every step is collapsing once at the end, if the base path is collapsed. -/
theorem foldl_append_eq_collapse {base : String} (hbase : collapse base.toList = base.toList)
    (chain : List String) :
    chain.foldl append base = String.ofList (collapse (base.toList ++ addedText chain)) := by
  -- Every path on the way is collapsed again, so it can be the base path of the rest.
  induction chain generalizing base with
  | nil =>
      rw [addedText, addedPaths, List.filter_nil, List.flatMap_nil, List.append_nil, hbase,
        String.ofList_toList, List.foldl_nil]
  | cons path rest ih =>
      by_cases hlost : path = "" ∨ path = "/"
      · rw [List.foldl_cons, append, if_pos hlost, ih hbase, addedText_cons_of_lost hlost]
      · have happend : (append base path).toList =
            collapse (base.toList ++ '/' :: path.toList) := by
          rw [append, if_neg hlost, String.toList_ofList]
        have hcollapsed : collapse (append base path).toList = (append base path).toList := by
          rw [happend, collapse_collapse]
        calc
          (path :: rest).foldl append base
              = String.ofList (collapse ((append base path).toList ++ addedText rest)) :=
            ih hcollapsed
          _ = String.ofList (collapse ((base.toList ++ '/' :: path.toList) ++ addedText rest)) := by
            rw [happend, collapse_collapse_append]
          _ = String.ofList (collapse (base.toList ++ addedText (path :: rest))) := by
            rw [addedText_cons hlost, List.append_assoc]

theorem foldl_append_eq_joined {base : String} (hbase : collapse base.toList = base.toList)
    (chain : List String) : chain.foldl append base = joined base chain := by
  rw [foldl_append_eq_collapse hbase, addedText, joined]
  split
  · next hnone => rw [hnone, List.flatMap_nil, List.append_nil, hbase, String.ofList_toList]
  · next hsome =>
    rw [withSingleSlashes, collapse_eq_destutter, String.toList_append, String.toList_append,
      List.append_assoc, ← cons_toList_intercalate hsome]
    rfl

theorem isRooted_append {base : String} (hbase : IsRooted base) (path : String) :
    IsRooted (append base path) := by
  rw [append]
  split
  · exact hbase
  · obtain ⟨rest, hrest⟩ := hbase.rooted
    apply isRooted_ofList_collapse
    rw [← hrest]
    rfl

theorem isRooted_foldl_append {base : String} (hbase : IsRooted base) (chain : List String) :
    IsRooted (chain.foldl append base) := by
  induction chain generalizing base with
  | nil => exact hbase
  | cons path rest ih => exact ih (isRooted_append hbase path)

end RestModel.Path

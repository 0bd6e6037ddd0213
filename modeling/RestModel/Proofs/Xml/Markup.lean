import Mathlib.Data.List.TakeWhile
import RestModel.Proofs.Xml.Written

/-!
# The pieces of a written document

What the reader finds at the beginning of a written text: tags up to the `>` that stands outside
quotes, and character data up to the next tag.  A tag that is cut off before its `>` is an error.
-/

namespace RestModel.Xml.Markup

/-! ## Cutting out a piece -/

section Cut

variable {σ : Type} {step : σ → Char → Option σ} {state next : σ} {content start : List Char}

/-- A piece does not end in characters that the step follows. -/
theorem cut_append (rest : List Char) (hread : content.foldlM step state = some next) :
    cut step state (content ++ rest) =
      (cut step next rest).map (fun (inner, tail) => (content ++ inner, tail)) := by
  induction content generalizing state with
  | nil =>
      obtain rfl : state = next := by simpa using hread
      exact (Option.map_id' (x := cut step state rest)).symm
  | cons char others ih =>
      rw [List.foldlM_cons] at hread
      obtain ⟨middle, hmiddle, hothers⟩ := Option.bind_eq_some_iff.mp hread
      rw [List.cons_append, cut, hmiddle]
      simp only [ih hothers, Option.map_map]
      rfl

theorem exists_foldlM_of_isPrefix (hstart : start <+: content)
    (hread : content.foldlM step state = some next) :
    ∃ middle, start.foldlM step state = some middle := by
  obtain ⟨rest, rfl⟩ := hstart
  rw [List.foldlM_append] at hread
  obtain ⟨middle, hmiddle, -⟩ := Option.bind_eq_some_iff.mp hread
  exact ⟨middle, hmiddle⟩

/-- A piece that is cut off has no end. -/
theorem cut_eq_none_of_isPrefix (hstart : start <+: content)
    (hread : content.foldlM step state = some next) : cut step state start = none := by
  obtain ⟨middle, hmiddle⟩ := exists_foldlM_of_isPrefix hstart hread
  have hcut := cut_append [] hmiddle
  rw [List.append_nil] at hcut
  rw [hcut]
  rfl

end Cut

/-! ## Following a tag -/

theorem foldlM_tagStep_of_unquoted {content : List Char}
    (hplain : ∀ char ∈ content, char ≠ '>' ∧ char ≠ '"' ∧ char ≠ '\'') :
    content.foldlM tagStep none = some none := by
  induction content with
  | nil => rfl
  | cons char rest ih =>
      obtain ⟨hend, hquote, hapostrophe⟩ := hplain char List.mem_cons_self
      have hstep : tagStep none char = some none := by
        rw [tagStep, if_neg hend, if_neg (not_or.mpr ⟨hquote, hapostrophe⟩)]
      rw [List.foldlM_cons, hstep]
      exact ih (fun other hother => hplain other (List.mem_cons_of_mem char hother))

theorem foldlM_tagStep_of_quoted {quote : Char} {value : List Char} (hfree : quote ∉ value) :
    value.foldlM tagStep (some quote) = some (some quote) := by
  induction value with
  | nil => rfl
  | cons char rest ih =>
      rw [List.mem_cons, not_or] at hfree
      rw [List.foldlM_cons, tagStep, if_neg (Ne.symm hfree.1)]
      exact ih hfree.2

theorem foldlM_tagStep_name {name : String} (hname : IsName name) :
    name.toList.foldlM tagStep none = some none := by
  apply foldlM_tagStep_of_unquoted
  intro char hmem
  have hplain := hname.plain char hmem
  refine ⟨?_, ?_, ?_⟩ <;> rintro rfl <;> exact hplain (by decide)

theorem foldlM_tagStep_writtenAttribute {entry : String × String} (hkey : IsName entry.1) :
    (writtenAttribute entry).foldlM tagStep none = some none := by
  have hvalue : '"' ∉ escape entry.2.toList := not_mem_escape (by decide)
  calc
    (writtenAttribute entry).foldlM tagStep none =
        entry.1.toList.foldlM tagStep none >>= fun state =>
          ('=' :: '"' :: (escape entry.2.toList ++ ['"'])).foldlM tagStep state := by
      rw [writtenAttribute, List.foldlM_cons]
      exact List.foldlM_append
    _ = (escape entry.2.toList).foldlM tagStep (some '"') >>= fun state =>
          ['"'].foldlM tagStep state := by
      rw [foldlM_tagStep_name hkey, ← List.foldlM_append]
      rfl
    _ = some none := by
      rw [foldlM_tagStep_of_quoted hvalue]
      rfl

theorem foldlM_tagStep_attributes {attributes : List (String × String)}
    (hkeys : ∀ entry ∈ attributes, IsName entry.1) :
    (attributes.flatMap writtenAttribute).foldlM tagStep none = some none := by
  induction attributes with
  | nil => rfl
  | cons entry rest ih =>
      rw [List.flatMap_cons, List.foldlM_append,
        foldlM_tagStep_writtenAttribute (hkeys entry List.mem_cons_self)]
      exact ih (fun other hother => hkeys other (List.mem_cons_of_mem entry hother))

/-- What can stand between the brackets of a tag: it does not look like another kind of markup,
leaves no quote open and does not end the tag. -/
structure IsContent (content : List Char) : Prop where
  nonempty : content ≠ []
  first : ∀ char ∈ content.head?, char ≠ '!' ∧ char ≠ '?'
  read : content.foldlM tagStep none = some none

theorem isContent_tagContent (element : Element) (hname : IsName element.name)
    (hkeys : ∀ entry ∈ element.attributes, IsName entry.1) : IsContent element.tagContent := by
  obtain ⟨first, rest, hchars⟩ := hname.exists_cons
  constructor
  · rw [Element.tagContent, hchars, List.cons_append]
    exact List.cons_ne_nil _ _
  · intro char hhead
    apply hname.first
    rw [Element.tagContent, hchars] at hhead
    rw [hchars]
    exact hhead
  · rw [Element.tagContent, List.foldlM_append, foldlM_tagStep_name hname]
    exact foldlM_tagStep_attributes hkeys

theorem IsContent.append_slash {content : List Char} (hcontent : IsContent content) :
    IsContent (content ++ ['/']) := by
  obtain ⟨first, rest, rfl⟩ := List.exists_cons_of_ne_nil hcontent.nonempty
  constructor
  · exact List.cons_ne_nil _ _
  · exact hcontent.first
  · rw [List.foldlM_append, hcontent.read]
    rfl

theorem isContent_slash_name {name : String} (hname : IsName name) :
    IsContent ('/' :: name.toList) := by
  constructor
  · exact List.cons_ne_nil _ _
  · intro char hhead
    obtain rfl : '/' = char := Option.some.inj hhead
    decide
  · rw [List.foldlM_cons]
    exact foldlM_tagStep_name hname

/-! ## Reading a piece -/

theorem mem_head?_of_isPrefix {start text : List Char} {char : Char} (hstart : start <+: text)
    (hchar : char ∈ start.head?) : char ∈ text.head? := by
  obtain ⟨rest, rfl⟩ := hstart
  rw [List.head?_append, Option.mem_def.mp hchar]
  rfl

/-- A text begins with a piece, and a rest stands behind it. -/
def Begins (input : List Char) (markup : Markup) (rest : List Char) : Prop :=
  ∃ hshorter, next? input = .ok (some (markup, ⟨rest, hshorter⟩))

variable {input rest content : List Char} {markup : Markup}

theorem begins_of_readPiece (hread : ∃ hshorter,
      readPiece (input.dropWhile isMarkupBlank) = .ok (some (markup, ⟨rest, hshorter⟩))) :
    Begins input markup rest := by
  obtain ⟨hshorter, hread⟩ := hread
  exact ⟨_, by rw [next?, hread]; rfl⟩

theorem next?_eq_error {cause : MarkupError}
    (hread : readPiece (input.dropWhile isMarkupBlank) = .error cause) :
    next? input = .error cause := by
  rw [next?, hread]
  rfl

theorem next?_eq_none (hread : readPiece (input.dropWhile isMarkupBlank) = .ok none) :
    next? input = .ok none := by
  rw [next?, hread]
  rfl

theorem readBracketed_tag (hfirst : ∀ char ∈ input.head?, char ≠ '!' ∧ char ≠ '?') :
    readBracketed input =
      readWith tagStep none .unclosedTag (fun content => .ok (ofTag content)) input := by
  unfold readBracketed
  split
  case h_6 => exact absurd rfl (hfirst '?' ‹_›).2
  case h_7 => rfl
  all_goals exact absurd rfl (hfirst '!' ‹_›).1

theorem dropWhile_angle (input : List Char) :
    ('<' :: input).dropWhile isMarkupBlank = '<' :: input := rfl

/-- A tag ends at the first angle bracket outside quotes. -/
theorem begins_bracketed (hcontent : IsContent content) (rest : List Char) :
    Begins (bracketed content ++ rest) (ofTag content) rest := by
  have hinput : bracketed content ++ rest = '<' :: (content ++ '>' :: rest) := by
    rw [bracketed, List.cons_append, List.append_assoc, List.singleton_append]
  have hcut : cut tagStep none (content ++ '>' :: rest) = some (content, rest) := by
    rw [cut_append _ hcontent.read]
    simp [cut, tagStep]
  have hhead : ∀ char ∈ (content ++ '>' :: rest).head?, char ≠ '!' ∧ char ≠ '?' := by
    obtain ⟨first, others, rfl⟩ := List.exists_cons_of_ne_nil hcontent.nonempty
    exact hcontent.first
  apply begins_of_readPiece
  rw [hinput, dropWhile_angle, readPiece, if_pos rfl, readBracketed_tag hhead]
  unfold readWith
  split
  · next hnone =>
    rw [hcut] at hnone
    exact absurd hnone (by simp)
  · next inner tail hfound =>
    rw [hcut, Option.some.injEq, Prod.mk.injEq] at hfound
    obtain ⟨rfl, rfl⟩ := hfound
    exact ⟨by simp; omega, rfl⟩

/-- A tag that is cut off is an error. -/
theorem next?_cut_tag {start : List Char} (hcontent : IsContent content)
    (hstart : start <+: content) : next? ('<' :: start) = .error (.malformed .unclosedTag) := by
  have hcut := cut_eq_none_of_isPrefix hstart hcontent.read
  have hhead : ∀ char ∈ start.head?, char ≠ '!' ∧ char ≠ '?' := by
    intro char hchar
    exact hcontent.first char (mem_head?_of_isPrefix hstart hchar)
  apply next?_eq_error
  rw [dropWhile_angle, readPiece, if_pos rfl, readBracketed_tag hhead]
  unfold readWith
  split
  · rfl
  · next inner tail hfound =>
    rw [hcut] at hfound
    exact absurd hfound (by simp)

/-- Character data reaches to the next tag or to the end. -/
theorem begins_text {raw : List Char} (hnonempty : raw ≠ []) (hangle : '<' ∉ raw)
    (hfirst : ∀ char ∈ raw.head?, isMarkupBlank char = false)
    (hlast : ∀ char ∈ raw.getLast?, isMarkupBlank char = false)
    (hrest : ∀ char ∈ rest.head?, char = '<') :
    Begins (raw ++ rest) (.text raw) rest := by
  cases raw with
  | nil => exact absurd rfl hnonempty
  | cons char others =>
      have hdrop : (char :: others ++ rest).dropWhile isMarkupBlank = char :: others ++ rest := by
        apply dropWhile_eq_self_of_head?
        exact hfirst
      have htext : ∀ other ∈ others, (other != '<') = true := by
        intro other hother
        rw [bne_iff_ne]
        rintro rfl
        exact hangle (List.mem_cons_of_mem char hother)
      have htake : rest.takeWhile (· != '<') = [] := by
        cases rest with
        | nil => rfl
        | cons first behind => simp [hrest first rfl]
      have hbehind : rest.dropWhile (· != '<') = rest := by
        apply dropWhile_eq_self_of_head?
        intro other hother
        simp [hrest other hother]
      have hchar : char ≠ '<' := fun hsame => hangle (hsame ▸ List.mem_cons_self)
      apply begins_of_readPiece
      rw [hdrop, List.cons_append, readPiece, if_neg hchar]
      refine ⟨by rw [List.length_cons, List.length_append]; omega, ?_⟩
      simp only [List.takeWhile_append_of_pos htext, List.dropWhile_append_of_pos htext, htake,
        hbehind, List.append_nil, dropEndWhile_eq_self_of_getLast? hlast]

/-- A text without tags is white space or one run of character data. -/
theorem next?_of_not_mem (hangle : '<' ∉ input) :
    next? input = .ok none ∨ ∃ raw, Begins input (.text raw) [] := by
  cases hdrop : input.dropWhile isMarkupBlank with
  | nil =>
      left
      apply next?_eq_none
      rw [hdrop]
      rfl
  | cons char others =>
      right
      have hmem : ∀ other ∈ char :: others, other ≠ '<' := by
        rintro other hother rfl
        exact hangle ((List.dropWhile_suffix isMarkupBlank).subset (hdrop ▸ hother))
      have hbehind : others.dropWhile (· != '<') = [] := by
        rw [List.dropWhile_eq_nil_iff]
        intro other hother
        exact bne_iff_ne.mpr (hmem other (List.mem_cons_of_mem char hother))
      refine ⟨Text.dropEndWhile isMarkupBlank (char :: others.takeWhile (· != '<')),
        begins_of_readPiece ?_⟩
      rw [hdrop, readPiece, if_neg (hmem char List.mem_cons_self)]
      refine ⟨Nat.succ_pos _, ?_⟩
      simp only [hbehind]

/-! ## Kinds of tags -/

theorem head?_tagContent {element : Element} (hname : IsName element.name) :
    element.tagContent.head? ≠ some '/' := by
  obtain ⟨first, rest, hchars⟩ := hname.exists_cons
  rw [Element.tagContent, hchars, List.cons_append, List.head?_cons]
  intro hslash
  exact hname.plain '/' (by simp [hchars, Option.some.inj hslash]) (by decide)

/-- A start tag ends in a character of the name or in a quote, so it is no tag of an empty
element. -/
theorem getLast?_tagContent {element : Element} (hname : IsName element.name) :
    element.tagContent.getLast? ≠ some '/' := by
  rw [Element.tagContent]
  rcases List.eq_nil_or_concat element.attributes with hnone | ⟨others, entry, hlast⟩
  · rw [hnone, List.flatMap_nil, List.append_nil]
    intro hslash
    exact hname.plain '/' (List.mem_of_getLast? hslash) (by decide)
  · rw [hlast, List.concat_eq_append, List.flatMap_append, List.flatMap_singleton,
      writtenAttribute]
    simp [List.getLast?_append, List.getLast?_cons]

theorem ofTag_tagContent {element : Element} (hname : IsName element.name) :
    ofTag element.tagContent = .openTag element.tagContent := by
  unfold ofTag
  split
  · next hcontent => exact absurd (by rw [hcontent]; rfl) (head?_tagContent hname)
  · rw [if_neg (getLast?_tagContent hname)]

theorem ofTag_append_slash {element : Element} (hname : IsName element.name) :
    ofTag (element.tagContent ++ ['/']) = .emptyTag element.tagContent := by
  obtain ⟨first, rest, hchars⟩ := hname.exists_cons
  unfold ofTag
  split
  · next hcontent =>
    apply absurd _ (head?_tagContent hname)
    rw [Element.tagContent, hchars, List.cons_append, List.cons_append] at hcontent
    rw [Element.tagContent, hchars, List.cons_append, (List.cons.inj hcontent).1]
    rfl
  · rw [if_pos List.getLast?_concat, List.dropLast_concat]

theorem ofTag_slash_name {name : String} (hname : IsName name) :
    ofTag ('/' :: name.toList) = .closeTag name.toList := by
  have hkept : Text.dropEndWhile isMarkupBlank name.toList = name.toList := by
    apply dropEndWhile_eq_self_of_getLast?
    intro char hlast
    exact hname.isMarkupBlank (List.mem_of_getLast? hlast)
  rw [ofTag, closeName, hkept, ite_self]

end RestModel.Xml.Markup

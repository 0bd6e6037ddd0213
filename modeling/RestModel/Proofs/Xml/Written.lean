import RestModel.Text.Blank
import RestModel.Xml.Attribute
import RestModel.Xml.Element

/-!
# The written form of an element

An element is written as its start tag with the attributes in order, its character data, its
children in order and its end tag; an element without content may be written as one tag instead.
The five characters that belong to markup are written as entities, and reading entities gives them
back.
-/

namespace RestModel.Xml

/-! ## Escaped text -/

/-- A character of a text or of a value as it is written. -/
def escapeChar : Char → List Char
  | '&' => "&amp;".toList
  | '<' => "&lt;".toList
  | '>' => "&gt;".toList
  | '"' => "&quot;".toList
  | '\'' => "&apos;".toList
  | char => [char]

def escape (text : List Char) : List Char :=
  text.flatMap escapeChar

/-- A character is written as itself or as an entity. -/
theorem escapeChar_eq (char : Char) :
    (escapeChar char = [char] ∧ char ∉ ['&', '<', '>', '"', '\'']) ∨
      ∃ name, predefinedEntities.lookup name = some char ∧
        escapeChar char = '&' :: name ++ [';'] ∧ name.all Char.isAlpha = true := by
  unfold escapeChar
  split
  · exact Or.inr ⟨"amp".toList, rfl, rfl, rfl⟩
  · exact Or.inr ⟨"lt".toList, rfl, rfl, rfl⟩
  · exact Or.inr ⟨"gt".toList, rfl, rfl, rfl⟩
  · exact Or.inr ⟨"quot".toList, rfl, rfl, rfl⟩
  · exact Or.inr ⟨"apos".toList, rfl, rfl, rfl⟩
  · next hamp hlt hgt hquot hapos =>
    refine Or.inl ⟨rfl, ?_⟩
    simp only [List.mem_cons, List.not_mem_nil, or_false, not_or]
    exact ⟨hamp, hlt, hgt, hquot, hapos⟩

theorem not_mem_escape {text : List Char} {char : Char} (hspecial : char ∈ ['<', '>', '"', '\'']) :
    char ∉ escape text := by
  intro hmem
  obtain ⟨original, -, hwritten⟩ := List.mem_flatMap.mp hmem
  rcases escapeChar_eq original with ⟨hself, hplain⟩ | ⟨name, -, hentity, hletters⟩
  · rw [hself, List.mem_singleton] at hwritten
    exact hplain (List.mem_cons_of_mem _ (hwritten ▸ hspecial))
  · rw [hentity, List.mem_append, List.mem_cons, List.mem_singleton] at hwritten
    rcases hwritten with (rfl | hletter) | rfl
    · exact absurd hspecial (by decide)
    · have halpha := List.all_eq_true.mp hletters char hletter
      simp only [List.mem_cons, List.not_mem_nil, or_false] at hspecial
      rcases hspecial with rfl | rfl | rfl | rfl <;> exact absurd halpha (by decide)
    · exact absurd hspecial (by decide)

/-! ## Reading entities back -/

theorem referencedChar_eq {name : List Char} {char : Char} (start stop : Nat)
    (hentity : predefinedEntities.lookup name = some char)
    (hletters : name.all Char.isAlpha = true) :
    referencedChar start stop name = .ok char := by
  unfold referencedChar
  split
  · exact absurd (List.all_eq_true.mp hletters '#' List.mem_cons_self) (by decide)
  · rw [hentity]

/-- Inside a reference, letters are collected. -/
theorem unescapeFrom_letters (total start position : Nat) (read rest : List Char)
    {name : List Char} (hletters : name.all Char.isAlpha = true) :
    ∃ later, unescapeFrom total position (some (start, read)) (name ++ rest) =
      unescapeFrom total later (some (start, read ++ name)) rest := by
  induction name generalizing position read with
  | nil => exact ⟨position, by rw [List.nil_append, List.append_nil]⟩
  | cons letter others ih =>
      rw [List.all_cons, Bool.and_eq_true] at hletters
      obtain ⟨halpha, hothers⟩ := hletters
      have hamp : letter ≠ '&' := by
        rintro rfl
        exact absurd halpha (by decide)
      have hsemicolon : letter ≠ ';' := by
        rintro rfl
        exact absurd halpha (by decide)
      obtain ⟨later, hlater⟩ := ih (position + letter.utf8Size) (read ++ [letter]) hothers
      refine ⟨later, ?_⟩
      rw [List.cons_append, unescapeFrom, if_neg hamp, if_neg hsemicolon, hlater,
        List.append_assoc, List.singleton_append]

theorem unescapeFrom_escapeChar (total position : Nat) (char : Char) (rest : List Char) :
    ∃ later, unescapeFrom total position none (escapeChar char ++ rest) =
      (do
        let others ← unescapeFrom total later none rest
        return char :: others) := by
  rcases escapeChar_eq char with ⟨hself, hplain⟩ | ⟨name, hname, hentity, hletters⟩
  · have hamp : char ≠ '&' := fun hsame => hplain (hsame ▸ List.mem_cons_self)
    refine ⟨position + char.utf8Size, ?_⟩
    rw [hself, List.singleton_append, unescapeFrom, if_neg hamp]
  · obtain ⟨later, hlater⟩ := unescapeFrom_letters total position (position + 1) []
      (';' :: rest) hletters
    refine ⟨later + 1, ?_⟩
    rw [hentity, List.append_assoc, List.cons_append, List.singleton_append, unescapeFrom,
      if_pos rfl, hlater, List.nil_append, unescapeFrom, if_neg (by decide), if_pos rfl,
      referencedChar_eq _ _ hname hletters]
    rfl

/-- Replacing the entities of an escaped text gives the text. -/
theorem unescapeFrom_escape (total position : Nat) (text : List Char) :
    unescapeFrom total position none (escape text) = .ok text := by
  induction text generalizing position with
  | nil => rfl
  | cons char rest ih =>
      obtain ⟨later, hlater⟩ := unescapeFrom_escapeChar total position char (escape rest)
      rw [escape, List.flatMap_cons, ← escape, hlater, ih]
      rfl

theorem unescape_escape (text : List Char) : unescape (escape text) = .ok text :=
  unescapeFrom_escape _ 0 text

/-! ## White space at the ends -/

theorem isMarkupBlank_eq_false {char : Char} (hplain : Text.isBlank char = false) :
    isMarkupBlank char = false := by
  rw [Bool.eq_false_iff]
  intro hblank
  simp only [isMarkupBlank, Bool.or_eq_true, beq_iff_eq] at hblank
  rcases hblank with ((rfl | rfl) | rfl) | rfl <;> exact absurd hplain (by decide)

/-- No white space stands at the two ends of a text. -/
def IsTrimmed (text : List Char) : Prop :=
  (∀ char ∈ text.head?, Text.isBlank char = false) ∧
    ∀ char ∈ text.getLast?, Text.isBlank char = false

instance (text : List Char) : Decidable (IsTrimmed text) :=
  decidable_of_iff (text.head?.all (!Text.isBlank ·) = true ∧
    text.getLast?.all (!Text.isBlank ·) = true) (by simp [IsTrimmed, Option.all_eq_true])

theorem dropWhile_eq_self_of_head? {inClass : Char → Bool} {text : List Char}
    (hfirst : ∀ char ∈ text.head?, inClass char = false) :
    text.dropWhile inClass = text := by
  cases text with
  | nil => rfl
  | cons char rest => rw [List.dropWhile_cons_of_neg (by simp [hfirst char rfl])]

theorem dropEndWhile_eq_self_of_getLast? {inClass : Char → Bool} {text : List Char}
    (hlast : ∀ char ∈ text.getLast?, inClass char = false) :
    Text.dropEndWhile inClass text = text := by
  rw [Text.dropEndWhile, dropWhile_eq_self_of_head?, List.reverse_reverse]
  intro char hhead
  exact hlast char (List.head?_reverse ▸ hhead)

theorem trimChars_of_isTrimmed {text : List Char} (htrimmed : IsTrimmed text) :
    Text.trimChars text = text := by
  rw [Text.trimChars, dropWhile_eq_self_of_head? htrimmed.1,
    dropEndWhile_eq_self_of_getLast? htrimmed.2]

theorem head?_escape {text : List Char} {char : Char} (hfirst : (escape text).head? = some char) :
    char = '&' ∨ text.head? = some char := by
  cases text with
  | nil => exact Or.inr hfirst
  | cons original rest =>
      rw [escape, List.flatMap_cons] at hfirst
      rcases escapeChar_eq original with ⟨hself, -⟩ | ⟨name, -, hentity, -⟩
      · rw [hself] at hfirst
        exact Or.inr hfirst
      · rw [hentity] at hfirst
        exact Or.inl (Option.some.inj hfirst).symm

theorem getLast?_escape {text : List Char} {char : Char}
    (hlast : (escape text).getLast? = some char) : char = ';' ∨ text.getLast? = some char := by
  rcases List.eq_nil_or_concat text with rfl | ⟨rest, original, rfl⟩
  · exact Or.inr hlast
  · rw [List.concat_eq_append] at hlast ⊢
    rw [escape, List.flatMap_append, List.flatMap_singleton] at hlast
    rcases escapeChar_eq original with ⟨hself, -⟩ | ⟨name, -, hentity, -⟩
    · rw [hself, List.getLast?_concat] at hlast
      exact Or.inr (List.getLast?_concat.trans hlast)
    · rw [hentity, ← List.append_assoc, List.getLast?_concat] at hlast
      exact Or.inl (Option.some.inj hlast).symm

/-- Escaping leaves the ends of a text without white space. -/
theorem IsTrimmed.escape {text : List Char} (htrimmed : IsTrimmed text) :
    IsTrimmed (escape text) := by
  constructor
  · intro char hfirst
    rcases head?_escape hfirst with rfl | hsame
    · decide
    · exact htrimmed.1 char hsame
  · intro char hlast
    rcases getLast?_escape hlast with rfl | hsame
    · decide
    · exact htrimmed.2 char hsame

/-! ## Written elements -/

/-- The characters that end or quote something inside a tag. -/
def delimiters : List Char :=
  [' ', '\t', '\n', '\r', '<', '>', '/', '=', '&', '"', '\'']

/-- A text that can stand for a name or for the key of an attribute. -/
structure IsName (name : String) : Prop where
  nonempty : name ≠ ""
  plain : ∀ char ∈ name.toList, char ∉ delimiters
  first : ∀ char ∈ name.toList.head?, char ≠ '!' ∧ char ≠ '?'

instance (name : String) : Decidable (IsName name) :=
  decidable_of_iff (name ≠ "" ∧ name.toList.all (!delimiters.contains ·) = true ∧
      name.toList.head?.all (fun char => char != '!' && char != '?') = true)
    ⟨fun ⟨hnonempty, hplain, hfirst⟩ =>
        ⟨hnonempty, by simpa using hplain, by simpa [Option.all_eq_true] using hfirst⟩,
      fun hname => ⟨hname.nonempty, by simpa using hname.plain,
        by simpa [Option.all_eq_true] using hname.first⟩⟩

namespace IsName

variable {name : String}

theorem isMarkupBlank (hname : IsName name) {char : Char} (hmem : char ∈ name.toList) :
    Xml.isMarkupBlank char = false := by
  have hplain := hname.plain char hmem
  rw [Bool.eq_false_iff]
  intro hblank
  simp only [Xml.isMarkupBlank, Bool.or_eq_true, beq_iff_eq] at hblank
  rcases hblank with ((rfl | rfl) | rfl) | rfl <;> exact hplain (by decide)

theorem endsKey (hname : IsName name) {char : Char} (hmem : char ∈ name.toList) :
    Attribute.endsKey char = false := by
  have hequals : char ≠ '=' := by
    rintro rfl
    exact hname.plain _ hmem (by decide)
  rw [Attribute.endsKey, hname.isMarkupBlank hmem, Bool.or_false, beq_eq_false_iff_ne]
  exact hequals

theorem exists_cons (hname : IsName name) : ∃ first rest, name.toList = first :: rest := by
  cases hchars : name.toList with
  | nil => exact absurd (String.toList_eq_nil_iff.mp hchars) hname.nonempty
  | cons first rest => exact ⟨first, rest, rfl⟩

end IsName

/-- An attribute as it is written behind the name of its element. -/
def writtenAttribute (entry : String × String) : List Char :=
  ' ' :: (entry.1.toList ++ '=' :: '"' :: (escape entry.2.toList ++ ['"']))

theorem writtenAttribute_append (entry : String × String) (rest : List Char) :
    writtenAttribute entry ++ rest =
      ' ' :: (entry.1.toList ++ '=' :: '"' :: (escape entry.2.toList ++ '"' :: rest)) := by
  simp [writtenAttribute]

/-- A tag with what stands between its brackets. -/
def bracketed (content : List Char) : List Char :=
  '<' :: (content ++ ['>'])

namespace Element

/-- What stands between the brackets of the start tag. -/
def tagContent (element : Element) : List Char :=
  element.name.toList ++ element.attributes.flatMap writtenAttribute

/-- Whether the element has neither children nor character data. -/
def hasNoContent (element : Element) : Bool :=
  element.children.isEmpty && element.text.isEmpty

mutual

/-- The written form of an element.  Those elements without content that `shorten` picks are written
as one tag. -/
def written (shorten : Element → Bool) : Element → List Char
  | ⟨name, attributes, children, text⟩ =>
    let element : Element := ⟨name, attributes, children, text⟩
    if shorten element && element.hasNoContent then bracketed (element.tagContent ++ ['/'])
    else
      bracketed element.tagContent ++ (escape text.toList ++
        (writtenAll shorten children ++ bracketed ('/' :: name.toList)))

/-- The written forms of elements, one behind the other. -/
def writtenAll (shorten : Element → Bool) : List Element → List Char
  | [] => []
  | element :: rest => element.written shorten ++ writtenAll shorten rest

end

/-- The tree can be written: names and keys are what a tag can hold, no key occurs twice in one
element, and no character data has white space at its ends. -/
inductive IsWritable : Element → Prop
  | intro {name : String} {attributes : List (String × String)} {children : List Element}
      {text : String} (named : IsName name) (keyed : ∀ entry ∈ attributes, IsName entry.1)
      (nodup : (attributes.map Prod.fst).Nodup) (trimmed : IsTrimmed text.toList)
      (below : ∀ child ∈ children, IsWritable child) :
      IsWritable ⟨name, attributes, children, text⟩

end Element

end RestModel.Xml

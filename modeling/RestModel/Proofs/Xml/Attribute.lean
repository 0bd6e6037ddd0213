import RestModel.Proofs.Xml.Written
import RestModel.Xml.Document

/-!
# The attributes of a written tag

Reading the content of a written start tag gives its name and its attributes in order.  The keys
differ, so none is refused as a repetition, and the entities in the values are replaced.
-/

namespace RestModel.Xml

namespace Attribute

variable {total : Nat} {seen : List Raw} {rest : List Char}

theorem skipBlanks_of_not_blank {first : Char} (hfirst : isMarkupBlank first = false) :
    skipBlanks (first :: rest) = first :: rest :=
  List.dropWhile_cons_of_neg (by simp [hfirst])

theorem readEq_equals : readEq total ('=' :: rest) = .ok rest := by
  rw [readEq, skipBlanks_of_not_blank (by decide)]
  rfl

theorem readValue_quoted {value : List Char} (hfree : '"' ∉ value) :
    readValue total ('"' :: (value ++ '"' :: rest)) = .ok (value, rest) := by
  have hinside : ∀ char ∈ value, (char != '"') = true := by
    intro char hmem
    rw [bne_iff_ne]
    rintro rfl
    exact hfree hmem
  rw [readValue, skipBlanks_of_not_blank (by decide)]
  simp [List.takeWhile_append_of_pos hinside, List.dropWhile_append_of_pos hinside]

/-- A written attribute with a new key is read with its value still escaped. -/
theorem next?_writtenAttribute (total : Nat) (rest : List Char) {entry : String × String}
    (hkey : IsName entry.1) (hfresh : ∀ raw ∈ seen, raw.key ≠ entry.1.toList) :
    ∃ position, next? total seen (writtenAttribute entry ++ rest) =
      .ok (some (⟨position, entry.1.toList, escape entry.2.toList⟩, rest)) := by
  obtain ⟨first, others, hchars⟩ := hkey.exists_cons
  have hfirst : isMarkupBlank first = false := hkey.isMarkupBlank (by simp [hchars])
  have hothers : ∀ char ∈ others, (!endsKey char) = true := by
    intro char hmem
    rw [hkey.endsKey (by simp [hchars, hmem])]
    rfl
  have hvalue : '"' ∉ escape entry.2.toList := not_mem_escape (by decide)
  have hunseen : seen.find? (·.key == entry.1.toList) = none := by
    rw [List.find?_eq_none]
    intro raw hraw
    simpa using hfresh raw hraw
  have hskip : skipBlanks (writtenAttribute entry ++ rest) =
      first :: (others ++ '=' :: '"' :: (escape entry.2.toList ++ '"' :: rest)) := by
    rw [writtenAttribute_append, hchars, skipBlanks, List.dropWhile_cons_of_pos rfl]
    exact skipBlanks_of_not_blank hfirst
  have htake : (others ++ '=' :: '"' :: (escape entry.2.toList ++ '"' :: rest)).takeWhile
      (!endsKey ·) = others := by
    rw [List.takeWhile_append_of_pos hothers, List.takeWhile_cons_of_neg (by decide),
      List.append_nil]
  have hdrop : (others ++ '=' :: '"' :: (escape entry.2.toList ++ '"' :: rest)).dropWhile
      (!endsKey ·) = '=' :: '"' :: (escape entry.2.toList ++ '"' :: rest) := by
    rw [List.dropWhile_append_of_pos hothers, List.dropWhile_cons_of_neg (by decide)]
  refine ⟨offset total (skipBlanks (writtenAttribute entry ++ rest)), ?_⟩
  rw [next?, hskip]
  simp only [htake, hdrop, readEq_equals, ← hchars, hunseen, readValue_quoted hvalue, bind,
    Except.bind]
  rfl

/-- Attributes with keys that differ from each other and from those before them are read in order,
with the entities in their values replaced. -/
theorem readFrom_writtenAttributes (seen : List Raw) {attributes : List (String × String)}
    (hkeys : ∀ entry ∈ attributes, IsName entry.1) (hnodup : (attributes.map Prod.fst).Nodup)
    (hfresh : ∀ raw ∈ seen, ∀ entry ∈ attributes, raw.key ≠ entry.1.toList) :
    readFrom total seen (attributes.flatMap writtenAttribute) = .ok attributes := by
  induction attributes generalizing seen with
  | nil =>
      unfold readFrom
      rfl
  | cons entry others ih =>
      rw [List.map_cons, List.nodup_cons] at hnodup
      obtain ⟨position, hnext⟩ := next?_writtenAttribute total
        (others.flatMap writtenAttribute) (hkeys entry List.mem_cons_self)
        (fun raw hraw => hfresh raw hraw entry List.mem_cons_self)
      have hothers := ih (seen ++ [⟨position, entry.1.toList, escape entry.2.toList⟩])
        (fun other hother => hkeys other (List.mem_cons_of_mem entry hother)) hnodup.2 (by
          intro raw hraw other hother
          rcases List.mem_append.mp hraw with hbefore | hnew
          · exact hfresh raw hbefore other (List.mem_cons_of_mem entry hother)
          · rw [List.mem_singleton] at hnew
            subst hnew
            intro hsame
            rw [String.toList_inj] at hsame
            exact hnodup.1 (hsame ▸ List.mem_map_of_mem hother))
      rw [List.flatMap_cons]
      unfold readFrom
      split
      · next cause herror =>
        rw [hnext] at herror
        exact absurd herror (by simp)
      · next hnone =>
        rw [hnext] at hnone
        exact absurd hnone (by simp)
      · next raw behind hread =>
        rw [hnext, Except.ok.injEq, Option.some.injEq, Prod.mk.injEq] at hread
        obtain ⟨rfl, rfl⟩ := hread
        rw [unescape_escape]
        simp only [hothers, String.ofList_toList]
        rfl

end Attribute

/-- The name and the attributes of a start tag are read from its content. -/
theorem Reading.elementOfTag_tagContent {element : Element} (hname : IsName element.name)
    (hkeys : ∀ entry ∈ element.attributes, IsName entry.1)
    (hnodup : (element.attributes.map Prod.fst).Nodup) :
    elementOfTag element.tagContent = .ok ⟨element.name, element.attributes, [], ""⟩ := by
  have hplain : ∀ char ∈ element.name.toList, (!isMarkupBlank char) = true := by
    intro char hmem
    rw [hname.isMarkupBlank hmem]
    rfl
  have hattributes : ∀ attributes : List (String × String),
      (attributes.flatMap writtenAttribute).takeWhile (!isMarkupBlank ·) = [] ∧
        (attributes.flatMap writtenAttribute).dropWhile (!isMarkupBlank ·) =
          attributes.flatMap writtenAttribute := by
    intro attributes
    cases attributes with
    | nil => exact ⟨rfl, rfl⟩
    | cons entry others => exact ⟨rfl, rfl⟩
  have htag : Attribute.tagName element.tagContent = element.name.toList := by
    rw [Attribute.tagName, Element.tagContent, List.takeWhile_append_of_pos hplain,
      (hattributes element.attributes).1, List.append_nil]
  have hread : Attribute.readAll element.tagContent = .ok element.attributes := by
    have hdrop : element.tagContent.dropWhile (!isMarkupBlank ·) =
        element.attributes.flatMap writtenAttribute := by
      rw [Element.tagContent, List.dropWhile_append_of_pos hplain,
        (hattributes element.attributes).2]
    rw [Attribute.readAll, hdrop]
    exact Attribute.readFrom_writtenAttributes [] hkeys hnodup
      (fun raw hraw => absurd hraw List.not_mem_nil)
  rw [elementOfTag, hread, htag, String.ofList_toList]
  rfl

end RestModel.Xml

import RestModel.Naming
import RestModel.Proofs.Text.Uppercase

/-!
# Names in camel case

Camel case drops hyphens and the case behind them, so different names may get the same form.  It
loses nothing of a name in lower case whose hyphens stand between words: there a capital can only
come from a hyphen.  A capital in front is the same before and after, since upper case brings in no
hyphen and begins with a character that is its own upper case.
-/

namespace RestModel.Naming

/-! ## Characters of a name -/

theorem toList_camelCase (name : String) : (camelCase name).toList = camelChars name.toList :=
  String.toList_ofList

theorem toList_capitalize (name : String) : (capitalize name).toList = capitalChars name.toList :=
  String.toList_ofList

theorem toList_enumValue (literal : String) :
    (enumValue literal).toList = capitalChars (camelChars literal.toList) :=
  (toList_capitalize _).trans (congrArg capitalChars (toList_camelCase literal))

theorem camelChars_hyphen_cons (next : Char) (rest : List Char) :
    camelChars ('-' :: next :: rest) = Text.upper next ++ camelChars rest :=
  rfl

theorem camelChars_cons_of_ne {char : Char} (hchar : char ≠ '-') (rest : List Char) :
    camelChars (char :: rest) = char :: camelChars rest := by
  apply camelChars.eq_4
  · exact fun hsame _ => hchar hsame
  · exact fun _ _ hsame _ => hchar hsame

/-- Characters in front that are no hyphens stay as they are. -/
theorem camelChars_append_of_not_mem {front : List Char} (hfront : '-' ∉ front)
    (back : List Char) : camelChars (front ++ back) = front ++ camelChars back := by
  induction front with
  | nil => rfl
  | cons char rest ih =>
      rw [List.mem_cons, not_or] at hfront
      rw [List.cons_append, camelChars_cons_of_ne (Ne.symm hfront.1), ih hfront.2,
        List.cons_append]

theorem capitalChars_cons (first : Char) (rest : List Char) :
    capitalChars (first :: rest) = Text.upper first ++ rest :=
  rfl

/-! ## Names of accessors -/

/-- What stands behind the verb in the name of an accessor: the member in camel case, with a
capital. -/
def accessorStem (member : String) : String :=
  camelCase ("-" ++ member)

theorem toList_accessorStem (member : String) :
    (accessorStem member).toList = camelChars ('-' :: member.toList) := by
  apply (toList_camelCase _).trans
  rw [String.toList_append]
  rfl

/-- The verb in the name of an accessor stays as it is. -/
theorem camelCase_verb (verb : String) (hverb : '-' ∉ verb.toList) (member : String) :
    camelCase (verb ++ "-" ++ member) = verb ++ accessorStem member := by
  apply String.toList_injective
  rw [toList_camelCase, String.append_assoc, String.toList_append,
    camelChars_append_of_not_mem hverb, String.toList_append, String.toList_append,
    toList_accessorStem]
  rfl

theorem camelCase_get (member : String) :
    camelCase ("get-" ++ member) = "get" ++ accessorStem member :=
  camelCase_verb "get" (by decide) member

theorem camelCase_set (member : String) :
    camelCase ("set-" ++ member) = "set" ++ accessorStem member :=
  camelCase_verb "set" (by decide) member

/-! ## Capitals -/

theorem upper_hyphen : Text.upper '-' = ['-'] := by
  decide +kernel

/-- It does not matter whether a capital is put before or after camel case. -/
theorem capitalChars_camelChars (chars : List Char) :
    capitalChars (camelChars chars) = camelChars (capitalChars chars) := by
  cases chars with
  | nil => rfl
  | cons char rest =>
      by_cases hhyphen : char = '-'
      · subst hhyphen
        rw [capitalChars_cons, upper_hyphen, List.singleton_append]
        cases rest with
        | nil =>
            change Text.upper '-' ++ [] = ['-']
            rw [upper_hyphen, List.append_nil]
        | cons next others =>
            -- The hyphen puts a capital in front, and a capital is its own upper case.
            obtain ⟨first, behind, hupper, hfirst⟩ := Text.exists_upper_eq_cons next
            rw [camelChars_hyphen_cons, hupper, List.cons_append, capitalChars_cons, hfirst,
              List.singleton_append]
      · rw [camelChars_cons_of_ne hhyphen, capitalChars_cons, capitalChars_cons,
          camelChars_append_of_not_mem (Text.hyphen_not_mem_upper hhyphen)]

/-- A hyphen in front is a capital behind it. -/
theorem accessorStem_eq_enumValue {member : String} (hnonempty : member ≠ "")
    (hfirst : member.toList.head? ≠ some '-') : accessorStem member = enumValue member := by
  apply String.toList_injective
  rw [toList_accessorStem, toList_enumValue]
  cases hchars : member.toList with
  | nil => exact absurd (String.toList_eq_nil_iff.mp hchars) hnonempty
  | cons first rest =>
      rw [hchars, List.head?_cons, ne_eq, Option.some.injEq] at hfirst
      rw [camelChars_hyphen_cons, camelChars_cons_of_ne hfirst, capitalChars_cons]

/-- A name in camel case gets the same form with a capital in three ways: as the value of an
enumeration member, by capitalizing before camel case as suffixes do, and behind the verb of an
accessor.  The last way needs a first character that is no hyphen. -/
theorem capitalized_forms_agree :
    (∀ name, enumValue name = camelCase (capitalize name)) ∧
      ∀ name, name ≠ "" → name.toList.head? ≠ some '-' →
        camelCase ("get-" ++ name) = "get" ++ enumValue name ∧
          camelCase ("set-" ++ name) = "set" ++ enumValue name := by
  constructor
  · intro name
    apply String.toList_injective
    rw [toList_enumValue, toList_camelCase, toList_capitalize]
    exact capitalChars_camelChars name.toList
  · intro name hnonempty hfirst
    rw [camelCase_get, camelCase_set, accessorStem_eq_enumValue hnonempty hfirst]
    exact ⟨rfl, rfl⟩

/-- The upper case of `ß` is two characters, and the name holds doubled and final hyphens. -/
theorem capitalized_forms_agree_sharp_s : "ß-size--v2-" ≠ "" ∧
    "ß-size--v2-".toList.head? ≠ some '-' ∧
      camelCase ("get-" ++ "ß-size--v2-") = "get" ++ enumValue "ß-size--v2-" ∧
        camelCase ("set-" ++ "ß-size--v2-") = "set" ++ enumValue "ß-size--v2-" := by
  have hnonempty : "ß-size--v2-" ≠ "" := by decide
  have hfirst : "ß-size--v2-".toList.head? ≠ some '-' := by decide
  exact ⟨hnonempty, hfirst, capitalized_forms_agree.2 _ hnonempty hfirst⟩

/-! ## Hyphenated words -/

def letters : List Char := "abcdefghijklmnopqrstuvwxyz".toList

def digits : List Char := "0123456789".toList

/-- A text goes on with hyphenated words.  A word begins with a letter and may go on with digits. -/
def continuesWords (begins : Bool) : List Char → Bool
  | [] => !begins
  | first :: rest =>
    if first = '-' then !begins && continuesWords true rest
    else (letters ++ if begins then [] else digits).contains first && continuesWords false rest

/-- A name of one or more words in lower case, joined by hyphens. -/
def IsHyphenated (name : String) : Prop :=
  continuesWords true name.toList = true

instance : DecidablePred IsHyphenated :=
  fun name => inferInstanceAs (Decidable (continuesWords true name.toList = true))

/-- Put a hyphen in front of each capital, and take its case away. -/
def hyphenChars (chars : List Char) : List Char :=
  chars.flatMap (fun char => if char.isUpper then ['-', char.toLower] else [char])

theorem hyphenChars_append (front back : List Char) :
    hyphenChars (front ++ back) = hyphenChars front ++ hyphenChars back :=
  List.flatMap_append

theorem hyphenChars_upper {char : Char} (hletter : char ∈ letters) :
    hyphenChars (Text.upper char) = ['-', char] := by
  have hall : letters.all (fun char => hyphenChars (Text.upper char) == ['-', char]) = true := by
    decide +kernel
  exact eq_of_beq (List.all_eq_true.mp hall char hletter)

/-- Camel case can be undone behind a letter. -/
theorem hyphenChars_camelChars {chars : List Char} (hwords : continuesWords false chars = true) :
    hyphenChars (camelChars chars) = chars := by
  induction chars using camelChars.induct with
  | case1 => rfl
  | case2 => exact absurd hwords (by decide)
  | case3 next rest ih =>
      obtain ⟨-, hletter, hrest⟩ :
          next ≠ '-' ∧ next ∈ letters ∧ continuesWords false rest = true := by
        simpa [continuesWords] using hwords
      rw [camelChars_hyphen_cons, hyphenChars_append, hyphenChars_upper hletter, ih hrest]
      rfl
  | case4 char rest hfinal hnext ih =>
      have hne : char ≠ '-' := by
        rintro rfl
        cases rest with
        | nil => exact hfinal rfl rfl
        | cons next others => exact hnext next others rfl rfl
      have hall : (letters ++ digits).all (fun char => hyphenChars [char] == [char]) = true := by
        decide +kernel
      simp only [continuesWords, hne, if_false, Bool.and_eq_true, List.contains_iff_mem] at hwords
      have hplain := eq_of_beq (List.all_eq_true.mp hall char hwords.1)
      rw [camelChars_cons_of_ne hne, ← List.singleton_append, hyphenChars_append, hplain,
        ih hwords.2]
      rfl

theorem continuesWords_of_isHyphenated {name : String} (hname : IsHyphenated name) :
    continuesWords false name.toList = true := by
  rw [IsHyphenated] at hname
  cases hchars : name.toList with
  | nil => exact absurd (hchars ▸ hname) (by decide)
  | cons first rest =>
      obtain ⟨hne, hletter, hrest⟩ :
          first ≠ '-' ∧ first ∈ letters ∧ continuesWords false rest = true := by
        simpa [continuesWords, hchars] using hname
      simp [continuesWords, hne, hletter, hrest]

theorem hyphenChars_camelCase {name : String} (hname : IsHyphenated name) :
    hyphenChars (camelCase name).toList = name.toList := by
  rw [toList_camelCase]
  exact hyphenChars_camelChars (continuesWords_of_isHyphenated hname)

theorem hyphenChars_accessorStem {name : String} (hname : IsHyphenated name) :
    hyphenChars (accessorStem name).toList = '-' :: name.toList := by
  rw [toList_accessorStem]
  apply hyphenChars_camelChars
  rw [continuesWords, if_pos rfl]
  exact hname

theorem camelCase_injOn {left right : String} (hleft : IsHyphenated left)
    (hright : IsHyphenated right) (hsame : camelCase left = camelCase right) : left = right := by
  apply String.toList_injective
  rw [← hyphenChars_camelCase hleft, hsame, hyphenChars_camelCase hright]

theorem accessorStem_injOn {left right : String} (hleft : IsHyphenated left)
    (hright : IsHyphenated right) (hsame : accessorStem left = accessorStem right) :
    left = right := by
  have hchars : '-' :: left.toList = '-' :: right.toList := by
    rw [← hyphenChars_accessorStem hleft, hsame, hyphenChars_accessorStem hright]
  exact String.toList_injective (List.cons.inj hchars).2

end RestModel.Naming

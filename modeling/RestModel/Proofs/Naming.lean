import Mathlib.Data.List.TakeWhile
import RestModel.Naming

/-!
# Local parts and keys

A local part holds no colon, and a name without a colon is its own local part.  The key of an
enumeration member is safe: it has none of the characters that divide names, and does not begin with
a digit.
-/

namespace RestModel.Naming

theorem colon_not_mem_localPart (qualified : String) : ':' ∉ (localPart qualified).toList := by
  rw [localPart, String.toList_ofList, localChars, List.mem_reverse]
  intro hmem
  exact absurd (List.all_eq_true.mp List.all_takeWhile ':' hmem) (by decide)

theorem localPart_of_not_mem {name : String} (hcolon : ':' ∉ name.toList) :
    localPart name = name := by
  have hall : name.toList.reverse.takeWhile (· != ':') = name.toList.reverse := by
    rw [List.takeWhile_eq_self_iff]
    intro char hmem
    rw [List.mem_reverse] at hmem
    rw [bne_iff_ne]
    rintro rfl
    exact hcolon hmem
  rw [localPart, localChars, hall, List.reverse_reverse, String.ofList_toList]

theorem localPart_localPart (qualified : String) :
    localPart (localPart qualified) = localPart qualified :=
  localPart_of_not_mem (colon_not_mem_localPart qualified)

theorem localPart_eq_self_iff {name : String} : localPart name = name ↔ ':' ∉ name.toList :=
  ⟨fun hsame => hsame ▸ colon_not_mem_localPart name, localPart_of_not_mem⟩

/-- The names of built-in types are qualified. -/
theorem isPrimitive_of_not_mem {name : String} (hcolon : ':' ∉ name.toList) :
    isPrimitive name = false := by
  have hmarked : ∀ start : List Char, ':' ∈ start → start.isPrefixOf name.toList = false := by
    intro start hstart
    rw [Bool.eq_false_iff]
    intro hbegins
    exact hcolon ((List.isPrefixOf_iff_prefix.mp hbegins).subset hstart)
  rw [isPrimitive, hmarked _ (by decide), hmarked _ (by decide)]
  rfl

/-! ## Keys -/

/-- A key without dots, spaces and slashes that does not begin with a digit. -/
structure IsSafeKey (key : String) : Prop where
  unbroken : ∀ char ∈ ['.', ' ', '/'], char ∉ key.toList
  guarded : ∀ first ∈ key.toList.head?, first.isDigit = false

theorem isKeyBreak_of_mem_keyChars {value : List Char} {char : Char}
    (hmem : char ∈ keyChars value) : isKeyBreak char = false := by
  have hreplaced : ∀ char ∈ value.map (fun char => if isKeyBreak char then '_' else char),
      isKeyBreak char = false := by
    intro char hchar
    obtain ⟨old, -, rfl⟩ := List.mem_map.mp hchar
    split
    · rfl
    · next hkept => simpa using hkept
  rw [keyChars] at hmem
  split at hmem
  · exact absurd hmem List.not_mem_nil
  · next first rest hvalue =>
    rw [hvalue] at hreplaced
    split at hmem
    · rcases List.mem_cons.mp hmem with hguard | hkey
      · rw [hguard]
        rfl
      · exact hreplaced char hkey
    · exact hreplaced char hmem

theorem isDigit_of_mem_head?_keyChars {value : List Char} {first : Char}
    (hfirst : first ∈ (keyChars value).head?) : first.isDigit = false := by
  rw [keyChars] at hfirst
  split at hfirst
  · exact absurd hfirst (by simp)
  · split at hfirst
    · cases hfirst
      rfl
    · next hplain =>
      cases hfirst
      simpa using hplain

theorem isSafeKey_enumKey (value : String) : IsSafeKey (enumKey value) where
  unbroken := by
    have hbreaks : ∀ char ∈ ['.', ' ', '/'], isKeyBreak char = true := by simp [isKeyBreak]
    intro char hchar hmem
    rw [enumKey, String.toList_ofList] at hmem
    exact Bool.eq_false_iff.mp (isKeyBreak_of_mem_keyChars hmem) (hbreaks char hchar)
  guarded := by
    intro first hfirst
    rw [enumKey, String.toList_ofList] at hfirst
    exact isDigit_of_mem_head?_keyChars hfirst

end RestModel.Naming

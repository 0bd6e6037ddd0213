import Mathlib.Data.List.Nodup
import Mathlib.Data.List.Perm.Subperm
import RestModel.Proofs.Schema.Emission

/-!
# The members of an enumeration

Different literals may have one key of their own.  Each literal is kept under its own key or, where
an earlier literal has taken it, under the first free one of its numbered keys.  The search through
the numbers ends, since only finitely many keys are taken.
-/

namespace RestModel.Schema

open Xml
open Naming (IsSafeKey enumKey enumValue)

/-! ## Numbered keys -/

theorem numberedKey_injective (key : String) : Function.Injective (numberedKey key) := by
  intro left right hsame
  rw [numberedKey, numberedKey, String.append_right_inj, Nat.toString_eq_ofList_toDigits,
    Nat.toString_eq_ofList_toDigits, String.ofList_inj] at hsame
  calc
    left = Nat.ofDigitChars 10 (Nat.toDigits 10 left) 0 := Nat.ofDigitChars_ten_toDigits.symm
    _ = Nat.ofDigitChars 10 (Nat.toDigits 10 right) 0 := by rw [hsame]
    _ = right := Nat.ofDigitChars_ten_toDigits

/-- Of one more numbered keys than there are taken ones, one is free. -/
theorem exists_numberedKey_not_mem (taken : List String) (key : String) (start : Nat) :
    ∃ number, start ≤ number ∧ number ≤ start + taken.length ∧ numberedKey key number ∉ taken := by
  -- Otherwise the taken keys would include one more different key than there are.
  by_contra hnone
  have hnodup : ((List.range' start (taken.length + 1)).map (numberedKey key)).Nodup :=
    (List.nodup_range' 1).map (numberedKey_injective key)
  have hsubset : (List.range' start (taken.length + 1)).map (numberedKey key) ⊆ taken := by
    intro candidate hcandidate
    obtain ⟨number, hnumber, rfl⟩ := List.mem_map.mp hcandidate
    rw [List.mem_range'_1] at hnumber
    by_contra hfree
    exact hnone ⟨number, hnumber.1, by omega, hfree⟩
  have hlength := (List.subperm_of_subset hnodup hsubset).length_le
  rw [List.length_map, List.length_range'] at hlength
  omega

/-- If one of the keys within reach is free, the search finds the first of them. -/
theorem firstFreeKey_eq_first {isTaken : String → Bool} {key : String} {attempts start free : Nat}
    (hlow : start ≤ free) (hhigh : free ≤ start + attempts)
    (hfree : isTaken (numberedKey key free) = false) :
    ∃ number, start ≤ number ∧ firstFreeKey isTaken key attempts start = numberedKey key number ∧
      isTaken (numberedKey key number) = false ∧
      ∀ earlier, start ≤ earlier → earlier < number →
        isTaken (numberedKey key earlier) = true := by
  induction attempts generalizing start with
  | zero =>
      have hstart : free = start := by omega
      subst hstart
      exact ⟨free, le_refl free, rfl, hfree, fun earlier hle hlt => absurd hlt (by omega)⟩
  | succ attempts ih =>
      cases htaken : isTaken (numberedKey key start) with
      | false =>
          refine ⟨start, le_refl start, ?_, htaken, fun earlier hle hlt => absurd hlt (by omega)⟩
          rw [firstFreeKey, htaken, if_neg Bool.false_ne_true]
      | true =>
          have hlater : start ≠ free := by
            rintro rfl
            exact absurd hfree (by simp [htaken])
          have hnext : start + 1 ≤ free := by omega
          have hreach : free ≤ start + 1 + attempts := by omega
          obtain ⟨number, hnumber, hfound, hfirst, hearlier⟩ := ih hnext hreach
          refine ⟨number, by omega, ?_, hfirst, fun earlier hle hlt => ?_⟩
          · rw [firstFreeKey, htaken, if_pos rfl, hfound]
          · by_cases hstart : earlier = start
            · exact hstart ▸ htaken
            · exact hearlier earlier (by omega) hlt

theorem isSafeKey_numberedKey {key : String} (hkey : IsSafeKey key) (number : Nat) :
    IsSafeKey (numberedKey key number) where
  unbroken := by
    intro char hchar hmem
    rw [numberedKey, String.toList_append, String.toList_append, List.mem_append, List.mem_append,
      Nat.toString_eq_ofList_toDigits] at hmem
    rcases hmem with (hold | hmark) | hnumber
    · exact hkey.unbroken char hchar hold
    · have hmarks : ∀ char ∈ ['.', ' ', '/'], char ∉ "_".toList := by simp
      exact hmarks char hchar hmark
    · have hletters : ∀ char ∈ ['.', ' ', '/'], char.isDigit ≠ true := by simp
      rw [String.toList_ofList] at hnumber
      exact hletters char hchar (Nat.isDigit_of_mem_toDigits (by decide) (by decide) hnumber)
  guarded := by
    intro first hfirst
    rw [numberedKey, String.append_assoc, String.toList_append] at hfirst
    cases hold : key.toList with
    | nil =>
        rw [hold, List.nil_append, String.toList_append] at hfirst
        change some '_' = some first at hfirst
        rw [← Option.some.inj hfirst]
        rfl
    | cons char rest =>
        rw [hold] at hfirst
        exact hkey.guarded first (hold ▸ hfirst)

/-! ## Literals and their keys -/

/-- The key of a literal when some keys are taken: its own one if that is free, and otherwise its
own one with the least number from two on that makes it free. -/
inductive IsKeyOf (taken : List String) (own : String) : String → Prop where
  | own (hfree : own ∉ taken) : IsKeyOf taken own own
  | numbered {number : Nat} (htaken : own ∈ taken) (hlow : 2 ≤ number)
      (hfree : numberedKey own number ∉ taken)
      (hleast : ∀ earlier, 2 ≤ earlier → earlier < number → numberedKey own earlier ∈ taken) :
      IsKeyOf taken own (numberedKey own number)

theorem IsKeyOf.not_mem {taken : List String} {own key : String} (hkey : IsKeyOf taken own key) :
    key ∉ taken := by
  cases hkey with
  | own hfree => exact hfree
  | numbered _ _ hfree _ => exact hfree

theorem IsKeyOf.isSafeKey {taken : List String} {own key : String} (hkey : IsKeyOf taken own key)
    (hown : IsSafeKey own) : IsSafeKey key := by
  cases hkey with
  | own => exact hown
  | numbered => exact isSafeKey_numberedKey hown _

theorem isKeyOf_literalKey (members : OrderedMap String TypeRef) (literal : String) :
    IsKeyOf members.keys (enumKey (enumValue literal)) (literalKey members literal) := by
  have hcontains : ∀ key, members.contains key = true ↔ key ∈ members.keys :=
    fun key => List.contains_iff_mem
  simp only [literalKey]
  split
  · next htaken =>
    obtain ⟨free, hlow, hhigh, hfree⟩ :=
      exists_numberedKey_not_mem members.keys (enumKey (enumValue literal)) 2
    rw [← hcontains, Bool.not_eq_true] at hfree
    obtain ⟨number, hnumber, hfound, hfirst, hearlier⟩ := firstFreeKey_eq_first hlow hhigh hfree
    rw [hfound]
    refine .numbered ((hcontains _).mp htaken) hnumber ?_ ?_
    · rw [← hcontains, hfirst]
      exact Bool.false_ne_true
    · intro earlier hle hlt
      exact (hcontains _).mp (hearlier earlier hle hlt)
  · next hfree =>
    rw [hcontains] at hfree
    exact .own hfree

/-- The members keep the literals: one member for each, in order, with the value of the literal and
with the key that it gets after the earlier ones. -/
structure KeepsLiterals (literals : List String) (members : OrderedMap String TypeRef) : Prop where
  length : members.entries.length = literals.length
  entry : ∀ index literal, literals[index]? = some literal → ∃ key,
    members.entries[index]? = some (key, .literal (enumValue literal)) ∧
      IsKeyOf (members.keys.take index) (enumKey (enumValue literal)) key

theorem keepsLiterals_insertLiteral {literals : List String}
    {members : OrderedMap String TypeRef} (hkept : KeepsLiterals literals members)
    (literal : String) : KeepsLiterals (literals ++ [literal]) (insertLiteral members literal) := by
  have hkey := isKeyOf_literalKey members literal
  have hentries : (insertLiteral members literal).entries =
      members.entries ++ [(literalKey members literal, .literal (enumValue literal))] :=
    OrderedMap.entries_insert_of_not_mem _ hkey.not_mem
  have hkeys : (insertLiteral members literal).keys =
      members.keys ++ [literalKey members literal] := by
    rw [OrderedMap.keys, hentries, List.map_append]
    rfl
  constructor
  · rw [hentries, List.length_append, List.length_append, hkept.length]
    rfl
  · intro index other hother
    rw [hentries, hkeys, List.getElem?_append, hkept.length]
    rw [List.getElem?_append] at hother
    -- The earlier members stay in their places, and the new literal has the place behind them.
    by_cases hearlier : index < literals.length
    · rw [if_pos hearlier] at hother
      obtain ⟨key, hentry, hchosen⟩ := hkept.entry index other hother
      refine ⟨key, by rw [if_pos hearlier, hentry], ?_⟩
      rw [List.take_append_of_le_length]
      · exact hchosen
      · rw [OrderedMap.keys, List.length_map, hkept.length]
        exact hearlier.le
    · rw [if_neg hearlier] at hother
      obtain ⟨hbound, hlast⟩ := List.getElem?_eq_some_iff.mp hother
      rw [List.length_singleton] at hbound
      have hindex : index = literals.length := by omega
      subst hindex
      rw [List.getElem_singleton] at hlast
      subst hlast
      refine ⟨literalKey members literal, ?_, ?_⟩
      · rw [if_neg hearlier, Nat.sub_self]
        rfl
      · rw [List.take_left' (by rw [OrderedMap.keys, List.length_map, hkept.length])]
        exact hkey

/-- Every literal of a list is kept behind those that came before. -/
theorem keepsLiterals_foldl_insertLiteral {earlier : List String}
    {members : OrderedMap String TypeRef} (hkept : KeepsLiterals earlier members)
    (literals : List String) :
    KeepsLiterals (earlier ++ literals) (literals.foldl insertLiteral members) := by
  induction literals generalizing earlier members with
  | nil =>
      rw [List.append_nil]
      exact hkept
  | cons literal rest ih =>
      have hrest := ih (keepsLiterals_insertLiteral hkept literal)
      rwa [List.append_assoc] at hrest

theorem keepsLiterals_empty : KeepsLiterals [] .empty where
  length := rfl
  entry := by
    intro index literal hliteral
    exact absurd hliteral (by simp)

theorem KeepsLiterals.isSafeKey {literals : List String} {members : OrderedMap String TypeRef}
    (hkept : KeepsLiterals literals members) : ∀ key ∈ members.keys, IsSafeKey key := by
  intro key hmem
  obtain ⟨entry, hentry, rfl⟩ := List.mem_map.mp hmem
  obtain ⟨index, hfound⟩ := List.mem_iff_getElem?.mp hentry
  have hbound : index < literals.length := by
    rw [← hkept.length]
    exact (List.getElem?_eq_some_iff.mp hfound).1
  obtain ⟨key, hkey, hchosen⟩ := hkept.entry index _ (List.getElem?_eq_getElem hbound)
  have hsame : entry = (key, _) := Option.some.inj (hfound.symm.trans hkey)
  rw [hsame]
  exact hchosen.isSafeKey (Naming.isSafeKey_enumKey _)

/-! ## Enumerations of a schema -/

theorem exists_restriction_of_literals {simple : Element}
    (hsome : (literals simple).isEmpty = false) :
    ∃ restriction, simple.child? "restriction" = some restriction ∧
      literals simple = facetValues restriction := by
  rw [literals] at hsome ⊢
  split at hsome
  · exact absurd hsome (by simp)
  · next restriction hrestriction =>
    split at hsome
    · next hbase => exact ⟨restriction, hrestriction, if_pos hbase⟩
    · exact absurd hsome (by simp)

theorem exists_keepsLiterals_of_isEnumeration {blank : TypeDef} {simple : Element}
    (hblank : blank.isEnumeration = false)
    (henumeration : (simpleType blank (literals simple)).isEnumeration = true) :
    ∃ restriction, simple.child? "restriction" = some restriction ∧
      KeepsLiterals (facetValues restriction) (simpleType blank (literals simple)).members := by
  rw [simpleType] at henumeration ⊢
  split at henumeration
  · exact absurd henumeration (by simp [hblank])
  · next hsome =>
    obtain ⟨restriction, hrestriction, hvalues⟩ :=
      exists_restriction_of_literals (Bool.not_eq_true _ ▸ hsome)
    refine ⟨restriction, hrestriction, ?_⟩
    rw [if_neg hsome, ← hvalues]
    exact keepsLiterals_foldl_insertLiteral keepsLiterals_empty (literals simple)

/-- An enumeration that a schema makes of a simple type keeps all literals in order, each under its
own key or under the first free one of its numbered keys.  So the keys are distinct, and each of
them is safe. -/
theorem enumeration_keeps_literals {schema simple : Element} {source home : String}
    {type : TypeDef} {index : Nat}
    (hsimple : (schema.childrenNamed "simpleType")[index]? = some simple)
    (htype : (types schema source home)[index]? = some type)
    (henumeration : type.isEnumeration = true) :
    ∃ restriction, simple.child? "restriction" = some restriction ∧
      KeepsLiterals (facetValues restriction) type.members ∧
      type.members.keys.Nodup ∧ ∀ key ∈ type.members.keys, IsSafeKey key := by
  cases hroot : schema.child? "element" with
  | none =>
      rw [types, hroot] at htype
      exact absurd htype (by simp)
  | some rootElement =>
      have hbound : index < (schema.childrenNamed "simpleType").length :=
        (List.getElem?_eq_some_iff.mp hsimple).1
      rw [types_eq_append hroot, List.getElem?_append_left (by rwa [List.length_map]),
        List.getElem?_map, hsimple] at htype
      obtain rfl := Option.some.inj htype
      obtain ⟨restriction, hrestriction, hkept⟩ :=
        exists_keepsLiterals_of_isEnumeration rfl henumeration
      exact ⟨restriction, hrestriction, hkept, OrderedMap.nodup _, hkept.isSafeKey⟩

/-- An enumeration facet with a value. -/
def facet (value : String) : Element :=
  ⟨"xs:enumeration", [("value", value)], [], ""⟩

/-- A simple type whose literals compete for their keys. -/
def modeType : Element :=
  ⟨"xs:simpleType", [("name", "mode-type")],
    [⟨"xs:restriction", [("base", "xs:string")],
      ["on-line", "onLine", "OnLine_2", "2nd/line", "on-line"].map facet, ""⟩], ""⟩

/-- A schema that declares modes. -/
def modeSchema : Element :=
  ⟨"xs:schema", [("targetNamespace", "urn:polycom:mode")],
    [⟨"xs:element", [("name", "plcm-mode")], [], ""⟩, modeType], ""⟩

/-- The third literal finds its own key taken by the second one, whose number the fifth skips. -/
theorem keepsLiterals_modeSchema : ∃ type, (types modeSchema "mode" "polycom")[0]? = some type ∧
    type.isEnumeration = true ∧
    type.members.keys = ["OnLine", "OnLine_2", "OnLine_2_2", "_2nd_line", "OnLine_3"] ∧
    ∃ restriction, modeType.child? "restriction" = some restriction ∧
      KeepsLiterals (facetValues restriction) type.members ∧
      type.members.keys.Nodup ∧ ∀ key ∈ type.members.keys, IsSafeKey key := by
  have henumeration : ((types modeSchema "mode" "polycom")[0]?.map TypeDef.isEnumeration) =
      some true := by decide +kernel
  have hkeys : ((types modeSchema "mode" "polycom")[0]?.map (·.members.keys)) =
      some ["OnLine", "OnLine_2", "OnLine_2_2", "_2nd_line", "OnLine_3"] := by decide +kernel
  obtain ⟨type, htype, hmarked⟩ := Option.map_eq_some_iff.mp henumeration
  rw [htype, Option.map_some, Option.some.injEq] at hkeys
  have hsimple : (modeSchema.childrenNamed "simpleType")[0]? = some modeType := rfl
  exact ⟨type, htype, hmarked, hkeys, enumeration_keeps_literals hsimple htype hmarked⟩

end RestModel.Schema

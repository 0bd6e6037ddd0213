import RestModel.Text.Uppercase

/-!
# Characters in upper case

Upper case consists of characters of the tables, or it is the character itself.  It is never empty
and begins with a character that is its own upper case, since no letter of the tables is the first
character of an upper case.
-/

namespace RestModel.Text

/-- The character of a code point has that code point; a number that is none gives the first
character. -/
theorem toNat_ofNat_eq (code : Nat) :
    (Char.ofNat code).toNat = code ∨ (Char.ofNat code).toNat = 0 := by
  by_cases hvalid : code.isValidChar
  · exact .inl (congrArg Char.toNat (dif_pos hvalid))
  · exact .inr (congrArg Char.toNat (dif_neg hvalid))

/-! ## Codes in upper case -/

/-- A code point stands for a character in upper case, by one of the tables. -/
def IsUpperCode (code : Nat) : Prop :=
  (∃ run ∈ caseRuns, run.image ≤ code ∧ code ≤ run.image + (run.last - run.first)) ∨
    ∃ expansion ∈ caseExpansions, code ∈ expansion.2

theorem isUpperCode_apply {run : CaseRun} (hrun : run ∈ caseRuns) {code : Nat}
    (hcovers : run.covers code = true) : IsUpperCode (run.apply code) := by
  simp only [CaseRun.covers, Bool.and_eq_true, decide_eq_true_eq] at hcovers
  refine .inl ⟨run, hrun, ?_, ?_⟩
  · exact Nat.le_add_right _ _
  · rw [CaseRun.apply]
    omega

theorem mem_expansions_of_lookup {code : Nat} {codes : List Nat}
    (hcodes : caseExpansions.lookup code = some codes) : (code, codes) ∈ caseExpansions := by
  obtain ⟨before, behind, hentries, -⟩ := List.lookup_eq_some_iff.mp hcodes
  simp [hentries]

/-- What upper case brings in stands in the tables. -/
theorem exists_code_of_mem_upper {char other : Char} (hmem : other ∈ upper char) :
    other = char ∨ ∃ code, IsUpperCode code ∧ other = Char.ofNat code := by
  rw [upper] at hmem
  split at hmem
  · next run hrun =>
    have hcovers : run.covers char.toNat = true := by simpa using List.find?_some hrun
    exact .inr ⟨_, isUpperCode_apply (List.mem_of_find?_eq_some hrun) hcovers,
      List.mem_singleton.mp hmem⟩
  · split at hmem
    · next codes hcodes =>
      obtain ⟨code, hcode, rfl⟩ := List.mem_map.mp hmem
      exact .inr ⟨code, .inr ⟨_, mem_expansions_of_lookup hcodes, hcode⟩, rfl⟩
    · exact .inl (List.mem_singleton.mp hmem)

/-- Upper case brings in no hyphen. -/
theorem hyphen_not_mem_upper {char : Char} (hchar : char ≠ '-') : '-' ∉ upper char := by
  have hruns : ∀ run ∈ caseRuns, '-'.toNat < run.image := by decide +kernel
  have hexpansions : ∀ expansion ∈ caseExpansions, '-'.toNat ∉ expansion.2 := by decide +kernel
  intro hmem
  rcases exists_code_of_mem_upper hmem with hsame | ⟨code, hcode, hhyphen⟩
  · exact hchar hsame.symm
  · have htoNat : '-'.toNat = code := by
      rcases toNat_ofNat_eq code with hsame | hzero
      · rw [hhyphen, hsame]
      · exact absurd (hhyphen ▸ hzero) (by decide)
    rcases hcode with ⟨run, hrun, hfirst, -⟩ | ⟨expansion, hexpansion, hlisted⟩
    · exact absurd (hruns run hrun) (by omega)
    · exact hexpansions expansion hexpansion (htoNat ▸ hlisted)

/-! ## Characters that are their own upper case -/

/-- The tables with the first character of each upper case only.  A character whose upper case is
several characters is a run of its own. -/
def leadingRuns : List CaseRun :=
  caseRuns ++ caseExpansions.map fun expansion =>
    ⟨expansion.1, expansion.1, 1, expansion.2.headD 0⟩

/-- No table has an upper case for the code point. -/
def IsOwnUpper (code : Nat) : Prop :=
  ∀ run ∈ leadingRuns, run.covers code = false

theorem upper_eq_cons_or_self (char : Char) :
    (∃ run ∈ leadingRuns, run.covers char.toNat = true ∧
      ∃ rest, upper char = Char.ofNat (run.apply char.toNat) :: rest) ∨ upper char = [char] := by
  cases hrun : caseRuns.find? (·.covers char.toNat) with
  | some run =>
      have hcovers : run.covers char.toNat = true := by simpa using List.find?_some hrun
      exact .inl ⟨run, List.mem_append_left _ (List.mem_of_find?_eq_some hrun), hcovers, [],
        by simp [upper, hrun]⟩
  | none =>
      cases hcodes : caseExpansions.lookup char.toNat with
      | some codes =>
          have hnonempty : ∀ expansion ∈ caseExpansions, expansion.2 ≠ [] := by decide
          have hmem := mem_expansions_of_lookup hcodes
          obtain ⟨first, rest, rfl⟩ := List.exists_cons_of_ne_nil (hnonempty _ hmem)
          exact .inl ⟨⟨char.toNat, char.toNat, 1, first⟩,
            List.mem_append_right _ (List.mem_map.mpr ⟨_, hmem, rfl⟩),
            by simp [CaseRun.covers], rest.map Char.ofNat,
            by simp [upper, hrun, hcodes, CaseRun.apply]⟩
      | none => exact .inr (by simp [upper, hrun, hcodes])

theorem upper_ofNat_eq_self {code : Nat} (hown : IsOwnUpper code) :
    upper (Char.ofNat code) = [Char.ofNat code] := by
  rcases upper_eq_cons_or_self (Char.ofNat code) with ⟨run, hrun, hcovers, -⟩ | hself
  · rcases toNat_ofNat_eq code with hsame | hzero
    · rw [hsame, hown run hrun] at hcovers
      exact absurd hcovers Bool.false_ne_true
    · have hnull : Char.ofNat code = '\x00' := Char.toNat_inj.mp hzero
      rw [hnull]
      decide +kernel
  · exact hself

/-! ## The tables as binary digits

Many letters are compared with many capitals, so both become the binary digits of one number. -/

/-- The number with the binary digits `0`, `stride`, …, `stride * count`. -/
def digitsAt (stride : Nat) : Nat → Nat
  | 0 => 1
  | count + 1 => 1 ||| digitsAt stride count <<< stride

theorem testBit_digitsAt (stride : Nat) {count index : Nat} (hindex : index ≤ count) :
    (digitsAt stride count).testBit (stride * index) = true := by
  induction count generalizing index with
  | zero => simp [digitsAt, Nat.le_zero.mp hindex]
  | succ count ih =>
      cases index with
      | zero => simp [digitsAt]
      | succ index =>
          have hdigit := ih (Nat.le_of_succ_le_succ hindex)
          simp [digitsAt, Nat.testBit_shiftLeft, Nat.mul_succ, hdigit]

/-- The number with a binary digit for each letter of the runs, where the letters of a run are
shifted to a start of its own. -/
def digitsFrom (start : CaseRun → Nat) : List CaseRun → Nat
  | [] => 0
  | run :: runs =>
    digitsAt run.stride ((run.last - run.first) / run.stride) <<< start run |||
      digitsFrom start runs

theorem testBit_digitsFrom (start : CaseRun → Nat) {runs : List CaseRun} {run : CaseRun}
    (hrun : run ∈ runs) {code : Nat} (hcovers : run.covers code = true) :
    (digitsFrom start runs).testBit (start run + (code - run.first)) = true := by
  induction runs with
  | nil => exact absurd hrun List.not_mem_nil
  | cons other others ih =>
      rw [digitsFrom, Nat.testBit_or, Bool.or_eq_true]
      rcases List.mem_cons.mp hrun with rfl | htail
      · left
        simp only [CaseRun.covers, Bool.and_eq_true, decide_eq_true_eq, beq_iff_eq] at hcovers
        obtain ⟨⟨-, hlast⟩, hplace⟩ := hcovers
        have hindex : (code - run.first) / run.stride ≤ (run.last - run.first) / run.stride :=
          Nat.div_le_div_right (Nat.sub_le_sub_right hlast _)
        have hletter := testBit_digitsAt run.stride hindex
        rw [Nat.mul_div_cancel' (Nat.dvd_of_mod_eq_zero hplace)] at hletter
        simp [Nat.testBit_shiftLeft, hletter]
      · exact .inr (ih htail)

/-- No letter of the tables is the first character of an upper case. -/
theorem digitsFrom_first_and_image :
    digitsFrom CaseRun.first leadingRuns &&& digitsFrom CaseRun.image leadingRuns = 0 := by
  decide +kernel

theorem isOwnUpper_apply {run : CaseRun} (hrun : run ∈ leadingRuns) {code : Nat}
    (hcovers : run.covers code = true) : IsOwnUpper (run.apply code) := by
  intro other hother
  rw [Bool.eq_false_iff]
  intro hletter
  have hfirst : other.first ≤ run.apply code := by
    simp only [CaseRun.covers, Bool.and_eq_true, decide_eq_true_eq] at hletter
    exact hletter.1.1
  have hlower := testBit_digitsFrom CaseRun.first hother hletter
  rw [Nat.add_sub_cancel' hfirst] at hlower
  have hupper := testBit_digitsFrom CaseRun.image hrun hcovers
  have hdigit := congrArg (Nat.testBit · (run.apply code)) digitsFrom_first_and_image
  simp only [Nat.testBit_and, hlower, Nat.zero_testBit, Bool.true_and] at hdigit
  exact Bool.false_ne_true (hdigit.symm.trans hupper)

/-- Upper case begins with a character that is its own upper case. -/
theorem exists_upper_eq_cons (char : Char) :
    ∃ first rest, upper char = first :: rest ∧ upper first = [first] := by
  rcases upper_eq_cons_or_self char with ⟨run, hrun, hcovers, rest, hupper⟩ | hself
  · exact ⟨_, rest, hupper, upper_ofNat_eq_self (isOwnUpper_apply hrun hcovers)⟩
  · exact ⟨char, [], hself, hself⟩

end RestModel.Text

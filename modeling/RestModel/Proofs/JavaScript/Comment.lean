import RestModel.Proofs.Compilation.Closure
import RestModel.Proofs.JavaScript.Record
import RestModel.Proofs.Schema.Documentation
import RestModel.Proofs.Schema.Label
import RestModel.Proofs.Text.Uppercase

/-!
# Comments behind fields

The line that sets a field ends in a comment with the label and the documentation of the field.  A
line end in either would end the comment, and what follows would be taken for code.  Names of
members and parameters add none, since upper case makes no line end.  Of the documentation only the
first line is taken, but a line counts as ended at a line feed only, and labels are not cut at all.
-/

namespace RestModel.JavaScript

open Naming

/-! ## Inline texts -/

/-- The characters that end a line, and a comment with it. -/
def lineEnds : List Char := ['\n', '\r', '\u2028', '\u2029']

/-- A text without certain characters. -/
def IsFreeOf (chars : List Char) (text : String) : Prop :=
  ∀ char ∈ text.toList, char ∉ chars

-- looked up by characters of the text, not by all characters there are
instance (chars : List Char) (text : String) : Decidable (IsFreeOf chars text) :=
  decidable_of_iff (text.toList.all (!chars.contains ·) = true) (by simp [IsFreeOf])

/-- A text without line ends. -/
def IsInline (text : String) : Prop :=
  IsFreeOf lineEnds text

instance (text : String) : Decidable (IsInline text) :=
  inferInstanceAs (Decidable (IsFreeOf lineEnds text))

/-- A text is one line with its line end. -/
def IsOneLine (text : String) : Prop :=
  ∃ content, text = line content ∧ IsInline content

@[simp] theorem isInline_append {front back : String} :
    IsInline (front ++ back) ↔ IsInline front ∧ IsInline back := by
  simp only [IsInline, IsFreeOf, String.toList_append, List.forall_mem_append]

theorem isOneLine_line_iff {content : String} : IsOneLine (line content) ↔ IsInline content := by
  constructor
  · rintro ⟨other, hsame, hinline⟩
    obtain rfl : content = other := (String.append_left_inj "\n").mp hsame
    exact hinline
  · exact fun hinline => ⟨content, rfl, hinline⟩

/-! ## Names -/

/-- A code point is that of a line end. -/
def IsEndCode (code : Nat) : Prop :=
  code ∈ lineEnds.map Char.toNat

instance : DecidablePred IsEndCode :=
  fun code => inferInstanceAs (Decidable (code ∈ lineEnds.map Char.toNat))

theorem not_mem_lineEnds_ofNat {code : Nat} (hcode : ¬IsEndCode code) :
    Char.ofNat code ∉ lineEnds := by
  intro hmem
  have hend : IsEndCode (Char.ofNat code).toNat := List.mem_map_of_mem hmem
  rcases Text.toNat_ofNat_eq code with hsame | hzero
  · exact hcode (hsame ▸ hend)
  · exact absurd (hzero ▸ hend) (by decide)

/-- No character in upper case ends a line. -/
theorem not_isEndCode_of_isUpperCode {code : Nat} (hcode : Text.IsUpperCode code) :
    ¬IsEndCode code := by
  have hruns : ∀ run ∈ Text.caseRuns, ∀ code ∈ lineEnds.map Char.toNat,
      code < run.image ∨ run.image + (run.last - run.first) < code := by
    decide +kernel
  have hexpansions : ∀ pair ∈ Text.caseExpansions, ∀ code ∈ pair.2, ¬IsEndCode code := by
    decide +kernel
  rcases hcode with ⟨run, hrun, hfirst, hlast⟩ | ⟨pair, hpair, hlisted⟩
  · intro hend
    have houtside := hruns run hrun code hend
    omega
  · exact hexpansions pair hpair code hlisted

theorem not_mem_lineEnds_of_mem_upper {char other : Char} (hchar : char ∉ lineEnds)
    (hmem : other ∈ Text.upper char) : other ∉ lineEnds := by
  rcases Text.exists_code_of_mem_upper hmem with rfl | ⟨code, hcode, rfl⟩
  · exact hchar
  · exact not_mem_lineEnds_ofNat (not_isEndCode_of_isUpperCode hcode)

theorem not_mem_lineEnds_of_mem_camelChars {chars : List Char}
    (hchars : ∀ char ∈ chars, char ∉ lineEnds) :
    ∀ char ∈ camelChars chars, char ∉ lineEnds := by
  induction chars using camelChars.induct with
  | case1 => exact hchars
  | case2 => exact hchars
  | case3 next rest ih =>
      rw [camelChars, List.forall_mem_append]
      have hrest := (List.forall_mem_cons.mp (List.forall_mem_cons.mp hchars).2)
      exact ⟨fun _ => not_mem_lineEnds_of_mem_upper hrest.1, ih hrest.2⟩
  | case4 char rest hfinal hnext ih =>
      rw [camelChars.eq_4 char rest hfinal hnext, List.forall_mem_cons]
      exact ⟨(List.forall_mem_cons.mp hchars).1, ih (List.forall_mem_cons.mp hchars).2⟩

theorem isInline_camelCase {name : String} (hname : IsInline name) :
    IsInline (camelCase name) := by
  rw [IsInline, IsFreeOf, camelCase, String.toList_ofList]
  exact not_mem_lineEnds_of_mem_camelChars hname

/-! ## Documentation -/

theorem mem_of_mem_trimChars {char : Char} {text : List Char} (hmem : char ∈ Text.trimChars text) :
    char ∈ text := by
  rw [Text.trimChars, Text.dropEndWhile, List.mem_reverse] at hmem
  have hkept := (List.dropWhile_sublist _).subset hmem
  exact (List.dropWhile_sublist _).subset (List.mem_reverse.mp hkept)

/-- The first line of a text holds no line feed. -/
theorem newline_not_mem_firstLine {text first : String}
    (hfirst : Text.firstLine text = some first) : '\n' ∉ first.toList := by
  rw [Text.firstLine] at hfirst
  split at hfirst
  · exact absurd hfirst (by simp)
  · obtain rfl := Option.some.inj hfirst
    intro hmem
    rw [Text.trim, String.toList_ofList, String.toList_ofList] at hmem
    have hkept := mem_of_mem_trimChars hmem
    exact absurd (List.mem_takeWhile_imp hkept) (by decide)

/-! ## Fields -/

theorem isInline_fieldComment_iff {field : Field} : IsInline (fieldComment field) ↔
    IsInline field.typeLabel ∧ ∀ doc ∈ field.doc, IsInline doc := by
  have hspace : IsInline " " := by decide
  rw [fieldComment]
  cases field.doc with
  | none => simp
  | some doc => simp [hspace]

/-- The label of a member holds no line end, and the first line of its documentation none of those
that do not end it. -/
def HasInlineComment (docs : OrderedMap String String) (member : String) (ref : TypeRef) : Prop :=
  IsInline (localPart ref.raw) ∧
    ∀ first ∈ (docs.get? member).bind Text.firstLine, IsFreeOf ['\r', '\u2028', '\u2029'] first

instance (docs : OrderedMap String String) (member : String) (ref : TypeRef) :
    Decidable (HasInlineComment docs member ref) :=
  inferInstanceAs (Decidable (_ ∧ _))

/-- Only the comment can break the line of a member whose name does not. -/
theorem isOneLine_fieldLine_iff {docs : OrderedMap String String} {member : String} {ref : TypeRef}
    (hmember : IsInline member) :
    IsOneLine (fieldLine (.ofMember docs member ref)) ↔ HasInlineComment docs member ref := by
  have hmarks : IsInline "  this['" ∧ IsInline "'] = " ∧ IsInline "Param" ∧ IsInline "; // " := by
    decide
  have hfirst : ∀ first ∈ (docs.get? member).bind Text.firstLine,
      (IsInline first ↔ IsFreeOf ['\r', '\u2028', '\u2029'] first) := by
    intro first hline
    obtain ⟨doc, -, hdoc⟩ := Option.bind_eq_some_iff.mp hline
    have hnewline := newline_not_mem_firstLine hdoc
    constructor
    · intro hinline char hmem hchar
      exact hinline char hmem (List.mem_cons_of_mem _ hchar)
    · intro hfree char hmem hchar
      rcases List.mem_cons.mp hchar with rfl | hother
      · exact hnewline hmem
      · exact hfree char hmem hother
  rw [fieldLine, isOneLine_line_iff]
  simp only [isInline_append, isInline_fieldComment_iff, Field.ofMember, Identifier.ofName, hmarks,
    hmember, isInline_camelCase hmember, true_and, and_true]
  exact and_congr_right fun _ => forall_congr' fun first => forall_congr' fun hline =>
    hfirst first hline

/-- In a constructor the lines of the fields stand together, behind another line. -/
theorem exists_bareConstructor_eq (name : String) (constructor : Constructor) :
    ∃ front back, bareConstructor name constructor =
      line front ++ block (constructor.fields.map fieldLine) ++ back := by
  let definition := line ("var " ++ name ++ " = function(" ++ parameters constructor ++ ")")
  let chain := (constructor.base.map (baseChain name)).getD ""
  cases hbase : constructor.base with
  | none =>
      refine ⟨definition ++ "\x7b", line "\x7d;" ++ chain, ?_⟩
      simp only [bareConstructor, definition, chain, hbase, block_cons, block_nil, line,
        Option.map_none, Option.getD_none, String.append_assoc, String.append_empty,
        String.empty_append]
  | some base =>
      refine ⟨definition ++ line "\x7b" ++ line ("  " ++ base.name.camelCase ++ ".call(this);"),
        line "\x7d;" ++ chain, ?_⟩
      simp only [bareConstructor, baseCall, definition, chain, hbase, block_cons, block_nil, line,
        Option.map_some, Option.getD_some, String.append_assoc, String.append_empty,
        String.empty_append]

theorem exists_constructorText?_eq {record : Record} {constructor : Constructor}
    (hconstructor : record.constructor = some constructor) (asModule : Bool) :
    ∃ front back, constructorText? record asModule =
      some (line front ++ block (constructor.fields.map fieldLine) ++ back) := by
  obtain ⟨front, back, hbare⟩ := exists_bareConstructor_eq record.name.camelCase constructor
  rw [constructorText?, hconstructor, Option.map_some]
  cases asModule with
  | false => exact ⟨front, back, congrArg some hbare⟩
  | true =>
      refine ⟨moduleHead record.sourceDir constructor.base ++ front,
        back ++ moduleTail record.name.camelCase record.sourceDir constructor.requires
          constructor.memberlessRequires, congrArg some ?_⟩
      simp only [if_true, constructorModule, hbare, block_cons, block_nil, line,
        String.append_assoc, String.append_empty]

/-- Take a record whose member names hold no line ends.  Each field of its constructor is set in one
line, comment included, exactly if no type label has a line end and no first line of documentation
has one other than the line feed. -/
theorem fieldLines_isOneLine_iff {registry : Registry} {readMethod : String} {record : Record}
    {constructor : Constructor} (hmem : record ∈ allRecords (.ofRegistry registry readMethod))
    (hconstructor : record.constructor = some constructor)
    (hnames : ∀ field ∈ constructor.fields, IsInline field.name.original) :
    (∀ asModule, ∃ front back, constructorText? record asModule =
      some (line front ++ block (constructor.fields.map fieldLine) ++ back)) ∧
    ∃ type ∈ registry.allTypes, record.name = .ofName type.name ∧
      constructor = .ofType registry type ∧
      ((∀ field ∈ constructor.fields, IsOneLine (fieldLine field)) ↔
        ∀ entry ∈ type.members.entries, HasInlineComment type.docs entry.1 entry.2) := by
  refine ⟨exists_constructorText?_eq hconstructor, ?_⟩
  obtain ⟨type, htype, hname, hsame⟩ := exists_type_of_mem_allRecords hmem
  rw [hconstructor, Constructor.ofType?] at hsame
  split at hsame
  · exact absurd hsame (by simp)
  · obtain rfl := Option.some.inj hsame
    refine ⟨type, htype, hname, rfl, ?_⟩
    simp only [Constructor.ofType, List.forall_mem_map] at hnames ⊢
    exact forall_congr' fun entry => forall_congr' fun hentry =>
      isOneLine_fieldLine_iff (hnames entry hentry)

/-! ## Switches -/

/-- A schema of switches, which are in one of several states and have a documented label. -/
def switchSchema (states : List String) (doc : String) : Xml.Element :=
  ⟨"xs:schema", [("targetNamespace", "urn:polycom:switch")],
    [⟨"xs:element", [("name", "plcm-switch"), ("type", "tns:switch-type")], [], ""⟩,
     ⟨"xs:complexType", [("name", "switch-type")],
      [⟨"xs:sequence", [], [Schema.memberNode "xs:element" "label" "xs:string" (some doc)], ""⟩,
       Schema.memberNode "xs:attribute" "state" "tns:state-type" none], ""⟩,
     Schema.stringType "state-type" states], ""⟩

/-- What that schema alone is compiled to. -/
def switches (states : List String) (doc : String) : Compilation :=
  .ofDocuments .default [⟨"wadl/switch.xsd", "switch", "", .schema, switchSchema states doc⟩]

/-- Of the documentation only the first line is taken. -/
theorem fieldLines_isOneLine_switches :
    ∃ record ∈ allRecords (switches ["on", "off"] "On the wall.\nMay be empty.").interface,
      ∃ constructor, record.constructor = some constructor ∧
        constructor.fields.map (·.name.original) = ["state", "label"] ∧
        ∀ field ∈ constructor.fields, IsOneLine (fieldLine field) := by
  have hrecords : (allRecords (switches ["on", "off"] "On the wall.\nMay be empty.").interface).map
      (·.constructor.map (·.fields.map (·.name.original))) = [some ["state", "label"]] := by
    decide +kernel
  have hcomments : ∀ type ∈
      (switches ["on", "off"] "On the wall.\nMay be empty.").registry.allTypes,
        ∀ entry ∈ type.members.entries, HasInlineComment type.docs entry.1 entry.2 := by
    decide +kernel
  obtain ⟨record, hrecord, hfields⟩ := List.map_eq_singleton_iff.mp hrecords
  obtain ⟨constructor, hconstructor, hnames⟩ := Option.map_eq_some_iff.mp hfields
  have hmem : record ∈ allRecords (switches ["on", "off"]
      "On the wall.\nMay be empty.").interface := hrecord ▸ List.mem_singleton_self record
  have hinline : ∀ name ∈ constructor.fields.map (·.name.original), IsInline name := by
    rw [hnames]
    decide
  obtain ⟨-, type, htype, -, -, hlines⟩ := fieldLines_isOneLine_iff hmem hconstructor
    (fun field hfield => hinline _ (List.mem_map_of_mem hfield))
  exact ⟨record, hmem, constructor, hconstructor, hnames, hlines.mpr (hcomments type htype)⟩

/-- A line feed in a state, and a line separator in the first line of the documentation, get through
and break the lines of both fields. -/
theorem fieldLines_broken_switches :
    ∃ record ∈ allRecords (switches ["on\noff"] "On the wall.\u2028May be empty.").interface,
      ∃ constructor, record.constructor = some constructor ∧
        constructor.fields.map (·.name.original) = ["state", "label"] ∧
        ∀ field ∈ constructor.fields, IsInline field.name.original ∧
          ¬IsOneLine (fieldLine field) := by
  have hrecords : (allRecords
      (switches ["on\noff"] "On the wall.\u2028May be empty.").interface).map
      (·.constructor.map Constructor.fields) =
        [some [
          ⟨.ofName "state", "stateParam", "state-type \x7bon\noff\x7d", none⟩,
          ⟨.ofName "label", "labelParam", "string", some "On the wall.\u2028May be empty."⟩]] := by
    decide +kernel
  obtain ⟨record, hrecord, hfields⟩ := List.map_eq_singleton_iff.mp hrecords
  obtain ⟨constructor, hconstructor, hnames⟩ := Option.map_eq_some_iff.mp hfields
  refine ⟨record, hrecord ▸ List.mem_singleton_self record, constructor, hconstructor, ?_⟩
  simp only [hnames, fieldLine, isOneLine_line_iff]
  decide +kernel

end RestModel.JavaScript

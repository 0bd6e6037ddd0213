import RestModel.Proofs.Xml.RoundTrip

/-!
# Written trees that are cut off

A proper beginning of a written tree is never a document.  A cut inside a tag leaves the tag without
its end, and a cut anywhere else leaves an element open, or no element at all.
-/

namespace RestModel.Xml

namespace Reading

/-- Reading the text as all that is left of a document ends in an error. -/
def Rejects (reading : Reading) (input : List Char) : Prop :=
  ∃ cause, (do (← reading.run input).finish) = .error cause

/-- Some element is open. -/
def IsOpen (reading : Reading) : Prop :=
  reading.opened ≠ []

/-- The document cannot end here. -/
def IsUnfinished (reading : Reading) : Prop :=
  ∃ cause, reading.finish = .error cause

/-- From states with a property, every proper beginning of the text is rejected. -/
def CutsReject (property : Reading → Prop) (text : List Char) : Prop :=
  ∀ reading, property reading → ∀ start, start <+: text → start ≠ text → reading.Rejects start

variable {reading next : Reading} {property : Reading → Prop} {first second : List Char}

theorem IsOpen.isUnfinished (hopen : reading.IsOpen) : reading.IsUnfinished := by
  obtain ⟨opened, root⟩ := reading
  cases opened with
  | nil => exact absurd rfl hopen
  | cons element outer => exact ⟨_, rfl⟩

theorem isUnfinished_start : start.IsUnfinished :=
  ⟨_, rfl⟩

theorem IsUnfinished.rejects_nil (hunfinished : reading.IsUnfinished) : reading.Rejects [] := by
  rw [Rejects, run_nil]
  exact hunfinished

theorem Rejects.of_run_eq {input rest : List Char} (hrejects : next.Rejects rest)
    (hrun : reading.run input = next.run rest) : reading.Rejects input := by
  rw [Rejects, hrun]
  exact hrejects

/-! ## Cuts in a text of two parts -/

/-- If the first part can be read, a cut in the whole text is a cut in one of its two parts. -/
theorem CutsReject.append (later : Reading → Prop) (hfirst : CutsReject property first)
    (hrun : ∀ reading, property reading → ∀ rest, rest <+: second →
      ∃ next, later next ∧ reading.run (first ++ rest) = next.run rest)
    (hsecond : CutsReject later second) : CutsReject property (first ++ second) := by
  intro reading hproperty start hstart hproper
  -- A cut right behind the first part counts as one in the second part.
  have hbehind : ∀ rest, rest <+: second → rest ≠ second → reading.Rejects (first ++ rest) := by
    intro rest hrest hcut
    obtain ⟨next, hlater, hread⟩ := hrun reading hproperty rest hrest
    exact (hsecond next hlater rest hrest hcut).of_run_eq hread
  rcases List.prefix_or_prefix_of_prefix hstart (List.prefix_append first second) with
    hinside | ⟨rest, rfl⟩
  · by_cases hwhole : start = first
    · have hcut : [] ≠ second := by
        rintro rfl
        exact hproper (by rw [hwhole, List.append_nil])
      simpa [hwhole] using hbehind [] List.nil_prefix hcut
    · exact hfirst reading hproperty start hinside hwhole
  · rw [List.prefix_append_right_inj] at hstart
    exact hbehind rest hstart (fun hsame => hproper (by rw [hsame]))

theorem cutsReject_nil : CutsReject property [] := by
  intro reading _ start hstart hproper
  exact absurd (List.prefix_nil.mp hstart) hproper

theorem CutsReject.mono {later : Reading → Prop} (hcuts : CutsReject property first)
    (hweaker : ∀ reading, later reading → property reading) : CutsReject later first :=
  fun reading hlater => hcuts reading (hweaker reading hlater)

/-! ## Cuts in the parts of an element -/

/-- A tag that is cut off has no end. -/
theorem cutsReject_bracketed {content : List Char} (hcontent : Markup.IsContent content) :
    CutsReject IsUnfinished (bracketed content) := by
  intro reading hunfinished start hstart hproper
  cases start with
  | nil => exact hunfinished.rejects_nil
  | cons char inner =>
      rw [bracketed, List.cons_prefix_cons] at hstart
      obtain ⟨rfl, hinner⟩ := hstart
      rw [List.prefix_concat_iff] at hinner
      have hcut : inner <+: content := by
        rcases hinner with rfl | hcut
        · exact absurd rfl hproper
        · exact hcut
      rw [Rejects, run, Markup.next?_cut_tag hcontent hcut]
      exact ⟨_, rfl⟩

/-- Text without tags closes no element. -/
theorem rejects_of_not_mem {input : List Char} (hopen : reading.IsOpen) (hangle : '<' ∉ input) :
    reading.Rejects input := by
  rcases Markup.next?_of_not_mem hangle with hnone | ⟨raw, hbegins⟩
  · rw [Rejects, run, hnone]
    exact hopen.isUnfinished
  · obtain ⟨opened, root⟩ := reading
    cases opened with
    | nil => exact absurd rfl hopen
    | cons element outer =>
        rw [Rejects, run_of_begins hbegins, feed]
        cases hread : unescape raw with
        | error cause => exact ⟨_, rfl⟩
        | ok text =>
            have hunfinished : (addText ⟨element :: outer, root⟩ text).IsUnfinished := ⟨_, rfl⟩
            exact hunfinished.rejects_nil

theorem cutsReject_escape (text : List Char) : CutsReject IsOpen (escape text) := by
  intro reading hopen start hstart _
  apply rejects_of_not_mem hopen
  intro hangle
  exact not_mem_escape (by decide) (hstart.subset hangle)

variable {shorten : Element → Bool}

theorem IsOpen.attach (hopen : reading.IsOpen) (element : Element) :
    (reading.attach element).IsOpen := by
  obtain ⟨opened, root⟩ := reading
  cases opened with
  | nil => exact absurd rfl hopen
  | cons parent outer => exact List.cons_ne_nil _ _

theorem IsOpen.foldl_attach (hopen : reading.IsOpen) (elements : List Element) :
    (elements.foldl Reading.attach reading).IsOpen := by
  induction elements generalizing reading with
  | nil => exact hopen
  | cons element others ih => exact ih (hopen.attach element)

theorem cutsReject_writtenAll {elements : List Element}
    (hwritable : ∀ element ∈ elements, element.IsWritable)
    (hcuts : ∀ element ∈ elements, CutsReject IsUnfinished (element.written shorten)) :
    CutsReject IsOpen (Element.writtenAll shorten elements) := by
  induction elements with
  | nil =>
      rw [Element.writtenAll]
      exact cutsReject_nil
  | cons element others ih =>
      have hothers := ih (fun other hother => hwritable other (List.mem_cons_of_mem element hother))
        (fun other hother => hcuts other (List.mem_cons_of_mem element hother))
      rw [Element.writtenAll]
      have hfirst : CutsReject IsOpen (element.written shorten) :=
        (hcuts element List.mem_cons_self).mono (fun _ => IsOpen.isUnfinished)
      apply hfirst.append IsOpen _ hothers
      intro reading hopen rest _
      exact ⟨_, hopen.attach element,
        run_written shorten (hwritable element List.mem_cons_self) reading rest⟩

/-- A written element that is cut off is rejected wherever the document cannot end. -/
theorem cutsReject_written {element : Element} (hwritable : element.IsWritable) :
    CutsReject IsUnfinished (element.written shorten) := by
  induction hwritable with
  | @intro name attributes children text named keyed nodup trimmed below ih =>
      have hcontent := Markup.isContent_tagContent ⟨name, attributes, children, text⟩
        named keyed
      have hend : CutsReject IsOpen (bracketed ('/' :: name.toList)) :=
        (cutsReject_bracketed (Markup.isContent_slash_name named)).mono
          (fun _ => IsOpen.isUnfinished)
      have hangle : (Element.writtenAll shorten children ++ bracketed ('/' :: name.toList)).head? =
          some '<' := head?_writtenAll_append children rfl
      rw [Element.written]
      split
      · exact cutsReject_bracketed hcontent.append_slash
      · apply (cutsReject_bracketed hcontent).append IsOpen
        · intro reading _ rest _
          refine ⟨_, ?_, run_startTag _ named keyed nodup rest⟩
          exact List.cons_ne_nil _ _
        · apply (cutsReject_escape text.toList).append IsOpen
          · intro reading hopen rest hrest
            obtain ⟨opened, root⟩ := reading
            cases opened with
            | nil => exact absurd rfl hopen
            | cons parent outer =>
                refine ⟨_, ?_, run_text trimmed (fun char hchar =>
                  Option.mem_unique (Markup.mem_head?_of_isPrefix hrest hchar) hangle)⟩
                exact List.cons_ne_nil _ _
          · apply (cutsReject_writtenAll below ih).append IsOpen _ hend
            intro reading hopen rest _
            exact ⟨_, hopen.foldl_attach children, run_writtenAll shorten (fun child hchild =>
              run_written shorten (below child hchild)) reading rest⟩

end Reading

/-- A beginning of a written tree is a document only if it is all of it. -/
theorem parse_truncated (shorten : Element → Bool) {tree : Element} (htree : tree.IsWritable)
    {start : List Char} (hstart : start <+: tree.written shorten) :
    (∃ cause, parse (String.ofList start) = .error cause) ↔ start ≠ tree.written shorten := by
  have hmark : dropByteOrderMark start = start := by
    apply dropByteOrderMark_of_head?
    intro char hchar
    exact Option.mem_unique (Markup.mem_head?_of_isPrefix hstart hchar)
      (Reading.head?_written shorten tree)
  rw [parse, String.toList_ofList, hmark]
  constructor
  · rintro ⟨cause, herror⟩ rfl
    have hread := Reading.run_written shorten htree .start []
    rw [List.append_nil, Reading.run_nil] at hread
    rw [hread] at herror
    have hsame : Except.ok tree = Except.error cause := herror
    exact absurd hsame (by simp)
  · intro hproper
    exact Reading.cutsReject_written htree _ Reading.isUnfinished_start start hstart hproper

/-- A beginning of the written tree that is cut off inside an entity. -/
def noteBeginning : String :=
  "<x:note xmlns:x=\"urn:a&amp;b\" by=\"&lt;O&apos;Neil&gt;\">ok<to/><x:body lang=\"\">1 &l"

theorem parse_noteBeginning :
    noteBeginning.toList <+: noteTree.written (·.name == "to") ∧
      noteBeginning.toList ≠ noteTree.written (·.name == "to") ∧
      ∃ cause, parse noteBeginning = .error cause := by
  have hstart : noteBeginning.toList <+: noteTree.written (·.name == "to") := by
    decide +kernel
  have hproper : noteBeginning.toList ≠ noteTree.written (·.name == "to") := by
    decide +kernel
  obtain ⟨cause, hcause⟩ := (parse_truncated _ isWritable_noteTree hstart).mpr hproper
  rw [String.ofList_toList] at hcause
  exact ⟨hstart, hproper, cause, hcause⟩

end RestModel.Xml

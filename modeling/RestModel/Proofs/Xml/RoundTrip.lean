import RestModel.Proofs.Xml.Attribute
import RestModel.Proofs.Xml.Markup

/-!
# Reading written trees

Reading the written form of an element attaches the element to what was read before, and goes on
with the text behind it.  A document that consists of a written tree therefore gives the tree, and
trees behind it do not change that.
-/

namespace RestModel.Xml

namespace Reading

variable {reading : Reading} {input rest : List Char}

/-! ## Single pieces -/

theorem run_of_begins {markup : Markup} (hbegins : Markup.Begins input markup rest) :
    reading.run input = (do (← reading.feed markup).run rest) := by
  obtain ⟨hshorter, hnext⟩ := hbegins
  rw [run, hnext]

theorem run_nil : reading.run [] = .ok reading := by
  rw [run]
  rfl

/-- A start tag opens its element. -/
theorem run_startTag (element : Element) (hname : IsName element.name)
    (hkeys : ∀ entry ∈ element.attributes, IsName entry.1)
    (hnodup : (element.attributes.map Prod.fst).Nodup) (rest : List Char) :
    reading.run (bracketed element.tagContent ++ rest) =
      run { reading with
        opened := ⟨element.name, element.attributes, [], ""⟩ :: reading.opened } rest := by
  have hcontent := Markup.isContent_tagContent element hname hkeys
  rw [run_of_begins (Markup.begins_bracketed hcontent rest),
    Markup.ofTag_tagContent hname, feed, elementOfTag_tagContent hname hkeys hnodup]
  rfl

/-- The tag of an element without content attaches the element. -/
theorem run_emptyTag (element : Element) (hname : IsName element.name)
    (hkeys : ∀ entry ∈ element.attributes, IsName entry.1)
    (hnodup : (element.attributes.map Prod.fst).Nodup) (rest : List Char) :
    reading.run (bracketed (element.tagContent ++ ['/']) ++ rest) =
      (reading.attach ⟨element.name, element.attributes, [], ""⟩).run rest := by
  have hcontent := (Markup.isContent_tagContent element hname hkeys).append_slash
  rw [run_of_begins (Markup.begins_bracketed hcontent rest), Markup.ofTag_append_slash hname, feed,
    elementOfTag_tagContent hname hkeys hnodup]
  rfl

/-- An end tag closes the innermost open element if it has its name. -/
theorem run_endTag (element : Element) {outer : List Element} {root : Option Element}
    (hname : IsName element.name) (rest : List Char) :
    run ⟨element :: outer, root⟩ (bracketed ('/' :: element.name.toList) ++ rest) =
      ((⟨outer, root⟩ : Reading).attach element).run rest := by
  rw [run_of_begins (Markup.begins_bracketed (Markup.isContent_slash_name hname) rest),
    Markup.ofTag_slash_name hname, feed, String.ofList_toList, close]
  simp only [if_pos]
  rfl

/-- Escaped character data is added to the innermost open element. -/
theorem run_text {parent : Element} {outer : List Element} {root : Option Element} {text : String}
    (htrimmed : IsTrimmed text.toList) (hrest : ∀ char ∈ rest.head?, char = '<') :
    run ⟨parent :: outer, root⟩ (escape text.toList ++ rest) =
      run ⟨parent.addText text :: outer, root⟩ rest := by
  by_cases hempty : escape text.toList = []
  · have hnone := unescape_escape text.toList
    rw [hempty] at hnone
    obtain rfl : text = "" := String.toList_eq_nil_iff.mp (Except.ok.inj hnone).symm
    cases parent
    rw [hempty, List.nil_append, Element.addText, String.append_empty]
  · have hbegins : Markup.Begins (escape text.toList ++ rest) (.text (escape text.toList)) rest :=
      Markup.begins_text hempty (not_mem_escape (by decide))
        (fun char hfirst => isMarkupBlank_eq_false (htrimmed.escape.1 char hfirst))
        (fun char hlast => isMarkupBlank_eq_false (htrimmed.escape.2 char hlast)) hrest
    rw [run_of_begins hbegins, feed]
    simp only [List.isEmpty_cons, unescape_escape, addText, trimChars_of_isTrimmed htrimmed,
      String.ofList_toList]
    rfl

/-! ## Whole elements -/

theorem foldl_attach (parent : Element) (outer : List Element) (root : Option Element)
    (children : List Element) :
    children.foldl attach ⟨parent :: outer, root⟩ =
      ⟨{ parent with children := parent.children ++ children } :: outer, root⟩ := by
  induction children generalizing parent with
  | nil =>
      cases parent
      simp
  | cons child rest ih =>
      rw [List.foldl_cons]
      refine (ih (parent.addChild child)).trans ?_
      simp [Element.addChild]

/-- A tag begins with an angle bracket, and so does every written element. -/
theorem head?_written (shorten : Element → Bool) (element : Element) :
    (element.written shorten).head? = some '<' := by
  obtain ⟨name, attributes, children, text⟩ := element
  rw [Element.written]
  split <;> rfl

theorem head?_writtenAll_append {shorten : Element → Bool} (elements : List Element)
    {behind : List Char} (hbehind : behind.head? = some '<') :
    (Element.writtenAll shorten elements ++ behind).head? = some '<' := by
  cases elements with
  | nil => exact hbehind
  | cons element others =>
      rw [Element.writtenAll, List.append_assoc, List.head?_append, head?_written]
      rfl

theorem run_writtenAll (shorten : Element → Bool) {elements : List Element}
    (hread : ∀ element ∈ elements, ∀ (reading : Reading) (rest : List Char),
      reading.run (element.written shorten ++ rest) = (reading.attach element).run rest)
    (reading : Reading) (rest : List Char) :
    reading.run (Element.writtenAll shorten elements ++ rest) =
      (elements.foldl attach reading).run rest := by
  induction elements generalizing reading with
  | nil => rw [Element.writtenAll, List.nil_append, List.foldl_nil]
  | cons element others ih =>
      rw [Element.writtenAll, List.append_assoc, hread element List.mem_cons_self,
        List.foldl_cons]
      exact ih (fun other hother => hread other (List.mem_cons_of_mem element hother)) _

/-- Reading a written element attaches the element. -/
theorem run_written (shorten : Element → Bool) {element : Element}
    (hwritable : element.IsWritable) (reading : Reading) (rest : List Char) :
    reading.run (element.written shorten ++ rest) = (reading.attach element).run rest := by
  induction hwritable generalizing reading rest with
  | @intro name attributes children text named keyed nodup trimmed below ih =>
      rw [Element.written]
      split
      · next hshort =>
        simp only [Element.hasNoContent, Bool.and_eq_true, List.isEmpty_iff,
          String.isEmpty_iff] at hshort
        obtain ⟨-, rfl, rfl⟩ := hshort
        exact run_emptyTag ⟨name, attributes, [], ""⟩ named keyed nodup rest
      · have hbehind : (Element.writtenAll shorten children ++
            (bracketed ('/' :: name.toList) ++ rest)).head? = some '<' :=
          head?_writtenAll_append children rfl
        rw [List.append_assoc, List.append_assoc, List.append_assoc,
          run_startTag ⟨name, attributes, children, text⟩ named keyed nodup,
          run_text trimmed (fun char hchar => Option.mem_unique hchar hbehind),
          run_writtenAll shorten ih, foldl_attach]
        refine (run_endTag ⟨name, attributes, _, _⟩ named rest).trans ?_
        simp [Element.addText]

end Reading

/-! ## Documents -/

theorem dropByteOrderMark_of_head? {input : List Char}
    (hfirst : ∀ char ∈ input.head?, char = '<') : dropByteOrderMark input = input := by
  cases input with
  | nil => rfl
  | cons char rest =>
      obtain rfl : char = '<' := hfirst char rfl
      rfl

/-- Elements behind the root do not count. -/
theorem Reading.foldl_attach_root (tree : Element) (others : List Element) :
    others.foldl attach ⟨[], some tree⟩ = ⟨[], some tree⟩ := by
  induction others with
  | nil => rfl
  | cons other rest ih => exact ih

/-- A written tree is read back, whichever of its elements without content are written as one tag
and whatever written trees follow it. -/
theorem parse_written (shorten : Element → Bool) {tree : Element} {others : List Element}
    (htree : tree.IsWritable) (hothers : ∀ other ∈ others, other.IsWritable) :
    parse (String.ofList (tree.written shorten ++ Element.writtenAll shorten others)) =
      .ok tree := by
  have hmark : dropByteOrderMark (tree.written shorten ++ Element.writtenAll shorten others) =
      tree.written shorten ++ Element.writtenAll shorten others := by
    apply dropByteOrderMark_of_head?
    intro char hchar
    rw [List.head?_append, Reading.head?_written] at hchar
    exact Option.mem_unique hchar rfl
  have hothersRun : (Reading.start.attach tree).run (Element.writtenAll shorten others) =
      .ok ⟨[], some tree⟩ := by
    have hall := Reading.run_writtenAll shorten
      (fun other hother => Reading.run_written shorten (hothers other hother))
      (Reading.start.attach tree) []
    rw [List.append_nil] at hall
    rw [hall, ← Reading.foldl_attach_root tree others, Reading.run_nil]
    rfl
  rw [parse, String.toList_ofList, hmark, Reading.run_written shorten htree, hothersRun]
  rfl

/-- A tree with a prefix, entities, white space inside of a text and elements without content. -/
def noteTree : Element :=
  ⟨"x:note", [("xmlns:x", "urn:a&b"), ("by", "<O'Neil>")], [
    ⟨"to", [], [], ""⟩,
    ⟨"x:body", [("lang", "")], [⟨"br", [], [], ""⟩], "1 < 2\n& \"3\""⟩], "ok"⟩

theorem isWritable_of_isName (name : String) (hname : IsName name) :
    Element.IsWritable ⟨name, [], [], ""⟩ :=
  .intro hname (by simp) List.nodup_nil (by decide) (by simp)

theorem isWritable_noteTree : noteTree.IsWritable := by
  have hbody : Element.IsWritable
      ⟨"x:body", [("lang", "")], [⟨"br", [], [], ""⟩], "1 < 2\n& \"3\""⟩ := by
    refine .intro (by decide) (by decide) (by decide) (by decide) ?_
    simpa using isWritable_of_isName "br" (by decide)
  refine .intro (by decide) (by decide) (by decide) (by decide) ?_
  simpa using ⟨isWritable_of_isName "to" (by decide), hbody⟩

/-- The tree as it is written, with another one behind it. -/
def noteText : String :=
  "<x:note xmlns:x=\"urn:a&amp;b\" by=\"&lt;O&apos;Neil&gt;\">ok<to/><x:body lang=\"\">" ++
    "1 &lt; 2\n&amp; &quot;3&quot;<br></br></x:body></x:note><to/>"

theorem parse_noteText : noteTree.IsWritable ∧ parse noteText = .ok noteTree := by
  have hwritten : noteText = String.ofList (noteTree.written (·.name == "to") ++
      Element.writtenAll (·.name == "to") [⟨"to", [], [], ""⟩]) := by
    decide +kernel
  rw [hwritten]
  refine ⟨isWritable_noteTree, parse_written _ isWritable_noteTree ?_⟩
  simpa using isWritable_of_isName "to" (by decide)

end RestModel.Xml

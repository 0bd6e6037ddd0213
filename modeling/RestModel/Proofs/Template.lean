import Mathlib.Data.List.Basic

/-!
# Templates

A template is a text with tags.  Tags of one kind stand for values; tags of the other kind enclose
sections that stand under a condition, or once for each item of a list.  A line end behind a tag of
the second kind belongs to the tag, so that a line with nothing but such a tag leaves no trace.
-/

namespace RestModel

/-- A template.  Every piece comes with what stands behind it. -/
inductive Template where
  | done
  | literal (content : String) (next : Template)
  /-- The value of a dotted name. -/
  | print (path : List String) (next : Template)
  /-- A section that stands if one of several values counts as true. -/
  | given (alternatives : List (List String)) (body next : Template)
  /-- A section that stands once for each item of a list, under a name for the item. -/
  | each (item : String) (path : List String) (body next : Template)
  deriving DecidableEq

namespace Template

/-- The template with another one behind it. -/
def followedBy : Template → Template → Template
  | done, last => last
  | literal content next, last => literal content (next.followedBy last)
  | print path next, last => print path (next.followedBy last)
  | given alternatives body next, last => given alternatives body (next.followedBy last)
  | each item path body next, last => each item path body (next.followedBy last)

/-! ## Reading -/

/-- A token of the text of a template; a tag is given by its words. -/
inductive Token where
  | literal (content : String)
  | print (words : List String)
  | block (words : List String)

/-- Where reading is: between the tags, or in one of either kind. -/
inductive Place where
  | outside
  | inPrint
  | inBlock

/-- The token of a text between tags, unless it is empty. -/
def literalToken (content : List Char) : List Token :=
  if content.isEmpty then [] else [.literal (String.ofList content)]

/-- The words of a tag. -/
def tagWords (content : List Char) : List String :=
  ((content.splitOn ' ').filter (!·.isEmpty)).map String.ofList

/-- The tokens of a text, behind what has been read since the last tag began or ended, in reverse
order.  A tag that does not end cannot be read. -/
def tokens : Place → List Char → List Char → Option (List Token)
  | .outside, read, [] => some (literalToken read.reverse)
  | .outside, read, '\x7b' :: '\x7b' :: rest =>
    (tokens .inPrint [] rest).map (literalToken read.reverse ++ ·)
  | .outside, read, '\x7b' :: '%' :: rest =>
    (tokens .inBlock [] rest).map (literalToken read.reverse ++ ·)
  | .inPrint, read, '\x7d' :: '\x7d' :: rest =>
    (tokens .outside [] rest).map (.print (tagWords read.reverse) :: ·)
  | .inBlock, read, '%' :: '\x7d' :: '\n' :: rest =>
    (tokens .outside [] rest).map (.block (tagWords read.reverse) :: ·)
  | .inBlock, read, '%' :: '\x7d' :: rest =>
    (tokens .outside [] rest).map (.block (tagWords read.reverse) :: ·)
  | place, read, char :: rest => tokens place (char :: read) rest
  | .inPrint, _, [] => none
  | .inBlock, _, [] => none

/-- A section that is still open to the front: the tag that ends it, and what it has so far. -/
structure OpenSection where
  ending : String
  content : Template

/-- The parts of a dotted name. -/
def pathOf (name : String) : List String :=
  (name.toList.splitOn '.').map String.ofList

/-- The names of a condition. -/
def alternativesOf (condition : List String) : List (List String) :=
  (condition.filter (· != "or")).map pathOf

/-- Put a token in front of what stands behind it: a tag that ends a section opens it to the front,
and one that begins it makes it a piece of the section around. -/
def prepend : Token → List OpenSection → Option (List OpenSection)
  | .literal content, inner :: outer =>
    some (⟨inner.ending, .literal content inner.content⟩ :: outer)
  | .print [name], inner :: outer =>
    some (⟨inner.ending, .print (pathOf name) inner.content⟩ :: outer)
  | .block ["endif"], sections => some (⟨"endif", .done⟩ :: sections)
  | .block ["endfor"], sections => some (⟨"endfor", .done⟩ :: sections)
  | .block ("if" :: condition), ⟨"endif", body⟩ :: inner :: outer =>
    some (⟨inner.ending, .given (alternativesOf condition) body inner.content⟩ :: outer)
  | .block ["for", item, "in", name], ⟨"endfor", body⟩ :: inner :: outer =>
    some (⟨inner.ending, .each item (pathOf name) body inner.content⟩ :: outer)
  | _, _ => none

/-- The template of several tokens. -/
def ofTokens (tokens : List Token) : Option Template := do
  let sections ← tokens.foldr (fun token sections => sections.bind (prepend token))
    (some [⟨"", .done⟩])
  match sections with
  | [whole] => some whole.content
  | _ => none

/-- The template that some lines read as. -/
def ofLines? (lines : List String) : Option Template :=
  (tokens .outside [] (lines.flatMap (·.toList ++ ['\n']))).bind ofTokens

/-! ## Rendering -/

/-- A value that a template can read. -/
inductive Value where
  | absent
  | flag (isSet : Bool)
  | text (content : String)
  | record (fields : List (String × Value))
  | list (items : List Value)

/-- Whether a value counts as true. -/
def Value.isTrue : Value → Bool
  | absent => false
  | flag isSet => isSet
  | text content => !content.isEmpty
  | record fields => !fields.isEmpty
  | list items => !items.isEmpty

/-- The value of a field; only records have some. -/
def Value.field (value : Value) (name : String) : Value :=
  match value with
  | record fields => (fields.lookup name).getD absent
  | _ => absent

/-- The values that can be read, by name. -/
abbrev Scope := List (String × Value)

/-- What a dotted name stands for. -/
def valueOf (scope : Scope) : List String → Value
  | [] => .absent
  | name :: fields => fields.foldl Value.field ((scope.lookup name).getD .absent)

/-- Whether one of several values counts as true. -/
def holds (scope : Scope) (alternatives : List (List String)) : Bool :=
  alternatives.any (fun path => (valueOf scope path).isTrue)

/-- The text of a template.  There is none if it prints what is no text, or goes through what is no
list. -/
def render (scope : Scope) : Template → Option String
  | done => some ""
  | literal content next => (render scope next).map (content ++ ·)
  | print path next =>
    match valueOf scope path with
    | .text content => (render scope next).map (content ++ ·)
    | _ => none
  | given alternatives body next =>
    if holds scope alternatives then
      (render scope body).bind (fun front => (render scope next).map (front ++ ·))
    else render scope next
  | each item path body next =>
    match valueOf scope path with
    | .list items =>
      (items.mapM (fun value => render ((item, value) :: scope) body)).bind
        (fun sections => (render scope next).map ("".intercalate sections ++ ·))
    | _ => none

variable {scope left right : Scope} {template front back next body : Template}

theorem render_followedBy {frontText backText : String}
    (hfront : render scope front = some frontText) (hback : render scope back = some backText) :
    render scope (front.followedBy back) = some (frontText ++ backText) := by
  induction front generalizing frontText with
  | done =>
      obtain rfl := Option.some.inj hfront
      rw [followedBy, hback, String.empty_append]
  | literal content next ih =>
      obtain ⟨rest, hrest, rfl⟩ := Option.map_eq_some_iff.mp hfront
      rw [followedBy, render, ih hrest, Option.map_some, String.append_assoc]
  | print path next ih =>
      rw [render] at hfront
      rw [followedBy, render]
      split at hfront
      · next content hvalue =>
        obtain ⟨rest, hrest, rfl⟩ := Option.map_eq_some_iff.mp hfront
        simp only [ih hrest, Option.map_some, String.append_assoc]
      · exact absurd hfront (by simp)
  | given alternatives body next _ ih =>
      rw [render] at hfront
      rw [followedBy, render]
      split at hfront
      · next hholds =>
        obtain ⟨inner, hinner, hmap⟩ := Option.bind_eq_some_iff.mp hfront
        obtain ⟨rest, hrest, rfl⟩ := Option.map_eq_some_iff.mp hmap
        rw [if_pos hholds, hinner, ih hrest, Option.bind_some, Option.map_some,
          String.append_assoc]
      · next hnot =>
        rw [if_neg hnot, ih hfront]
  | each item path body next _ ih =>
      rw [render] at hfront
      rw [followedBy, render]
      split at hfront
      · next items hvalue =>
        obtain ⟨sections, hsections, hmap⟩ := Option.bind_eq_some_iff.mp hfront
        obtain ⟨rest, hrest, rfl⟩ := Option.map_eq_some_iff.mp hmap
        simp only [hsections, ih hrest, Option.bind_some, Option.map_some,
          String.append_assoc]
      · exact absurd hfront (by simp)

theorem render_done : render scope done = some "" := rfl

theorem render_literal (content : String) :
    render scope (literal content next) = (render scope next).map (content ++ ·) := rfl

theorem render_print {path : List String} {content : String}
    (hpath : valueOf scope path = .text content) :
    render scope (print path next) = (render scope next).map (content ++ ·) := by
  rw [render, hpath]

/-- A section under a condition. -/
theorem render_given {alternatives : List (List String)} {text : String}
    (hbody : holds scope alternatives = true → render scope body = some text) :
    render scope (given alternatives body next) =
      (render scope next).map ((if holds scope alternatives then text else "") ++ ·) := by
  rw [render]
  split
  · next hholds => rw [hbody hholds, Option.bind_some]
  · simp

/-- A section for each of several entries. -/
theorem render_each {α : Type} {item : String} {path : List String} {entries : List α}
    {value : α → Value} {text : α → String} (hpath : valueOf scope path = .list (entries.map value))
    (hbody : ∀ entry ∈ entries, render ((item, value entry) :: scope) body = some (text entry)) :
    render scope (each item path body next) =
      (render scope next).map ("".intercalate (entries.map text) ++ ·) := by
  have hsections : (entries.map value).mapM (fun value => render ((item, value) :: scope) body) =
      some (entries.map text) := by
    clear hpath
    induction entries with
    | nil => rfl
    | cons entry rest ih =>
        rw [List.forall_mem_cons] at hbody
        simp [hbody.1, ih hbody.2]
  rw [render, hpath]
  simp only [hsections, Option.bind_some]

/-! ## Reading values -/

/-- The names that a template reads from its scope. -/
def reads : Template → List String
  | done => []
  | literal _ next => next.reads
  | print path next => path.take 1 ++ next.reads
  | given alternatives body next => alternatives.flatMap (·.take 1) ++ body.reads ++ next.reads
  | each item path body next => path.take 1 ++ body.reads.filter (· != item) ++ next.reads

theorem valueOf_congr {path : List String}
    (hsame : ∀ name ∈ path.take 1, left.lookup name = right.lookup name) :
    valueOf left path = valueOf right path := by
  cases path with
  | nil => rfl
  | cons name fields => rw [valueOf, valueOf, hsame name (by simp)]

/-- The text depends on the names that are read only. -/
theorem render_congr (hsame : ∀ name ∈ template.reads, left.lookup name = right.lookup name) :
    render left template = render right template := by
  induction template generalizing left right with
  | done => rfl
  | literal content next ih => rw [render, render, ih hsame]
  | print path next ih =>
      rw [reads, List.forall_mem_append] at hsame
      rw [render, render, valueOf_congr hsame.1, ih hsame.2]
  | given alternatives body next ihBody ihNext =>
      rw [reads, List.forall_mem_append, List.forall_mem_append] at hsame
      obtain ⟨⟨hpaths, hbody⟩, hnext⟩ := hsame
      have hholds : holds left alternatives = holds right alternatives := by
        rw [Bool.eq_iff_iff, holds, holds, List.any_eq_true, List.any_eq_true]
        refine exists_congr fun path => and_congr_right fun hpath => ?_
        rw [valueOf_congr fun name hname => hpaths name (List.mem_flatMap.mpr ⟨path, hpath, hname⟩)]
      rw [render, render, hholds, ihBody hbody, ihNext hnext]
  | each item path body next ihBody ihNext =>
      rw [reads, List.forall_mem_append, List.forall_mem_append] at hsame
      obtain ⟨⟨hpath, hbody⟩, hnext⟩ := hsame
      have hsections : ∀ value, render ((item, value) :: left) body =
          render ((item, value) :: right) body := by
        intro value
        apply ihBody
        intro name hname
        rw [List.lookup_cons, List.lookup_cons]
        by_cases hitem : name = item
        · simp [hitem]
        · rw [hbody name (List.mem_filter.mpr ⟨hname, by simpa using hitem⟩)]
      simp only [render, valueOf_congr hpath, hsections, ihNext hnext]

/-- A name that is not read can have any value. -/
theorem render_cons_of_not_mem_reads {name : String} (value : Value)
    (hname : name ∉ template.reads) :
    render ((name, value) :: scope) template = render scope template := by
  apply render_congr
  intro other hother
  have hne : other ≠ name := by
    rintro rfl
    exact hname hother
  rw [List.lookup_cons, beq_false_of_ne hne]

end Template

end RestModel

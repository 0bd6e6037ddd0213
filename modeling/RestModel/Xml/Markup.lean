import RestModel.Text.Blank
import RestModel.Xml.Error

/-!
# Markup

A document is read as a sequence of pieces: tags, character data, and the comments, instructions and
declarations between them.  Each piece ends at a `>` that its own rule recognizes, or, for character
data, before the next `<`.
-/

namespace RestModel.Xml

/-- White space between and inside tags. -/
def isMarkupBlank (char : Char) : Bool :=
  char == ' ' || char == '\t' || char == '\n' || char == '\r'

/-- One piece of a document. -/
inductive Markup where
  /-- The start tag of an element with content; `content` is what stands between the brackets. -/
  | openTag (content : List Char)
  /-- The tag of an empty element, without its final slash. -/
  | emptyTag (content : List Char)
  | closeTag (name : List Char)
  /-- Character data with references, without white space at its ends. -/
  | text (raw : List Char)
  /-- Character data that is taken as it is. -/
  | data (raw : List Char)
  /-- A comment, an instruction or a declaration. -/
  | aside
  deriving DecidableEq

namespace Markup

/-- Read up to the `>` that ends a piece: `step` follows the characters and yields nothing at that
`>`.  The result is what stands before it and what stands behind it. -/
def cut {σ : Type} (step : σ → Char → Option σ) : σ → List Char → Option (List Char × List Char)
  | _, [] => none
  | state, char :: rest =>
    match step state char with
    | none => some ([], rest)
    | some next => (cut step next rest).map (fun (content, tail) => (char :: content, tail))

theorem length_of_cut {σ : Type} {step : σ → Char → Option σ} {state : σ}
    {input content tail : List Char} (found : cut step state input = some (content, tail)) :
    tail.length < input.length := by
  induction input generalizing state content with
  | nil => simp [cut] at found
  | cons char rest ih =>
    unfold cut at found
    split at found
    · simp only [Option.some.injEq, Prod.mk.injEq] at found
      simp [← found.2]
    · next next _ =>
      obtain ⟨⟨inner, behind⟩, innerFound, same⟩ := Option.map_eq_some_iff.mp found
      simp only [Prod.mk.injEq] at same
      obtain ⟨_, rfl⟩ := same
      exact Nat.lt_succ_of_lt (ih innerFound)

/-- A tag ends at the first `>` outside quotes; the state is the open quote. -/
def tagStep : Option Char → Char → Option (Option Char)
  | none, char =>
    if char = '>' then none
    else if char = '"' ∨ char = '\'' then some (some char)
    else some none
  | some quote, char => some (if char = quote then none else some quote)

/-- An instruction ends at the first `>` behind a `?`; the state tells whether one was just read. -/
def instructionStep (afterMark : Bool) (char : Char) : Option Bool :=
  if afterMark ∧ char = '>' then none else some (char == '?')

/-- Uninterpreted data ends at the first `>` behind `]]`; the state counts the brackets just
read. -/
def dataStep (brackets : Nat) (char : Char) : Option Nat :=
  if char = ']' then some (brackets + 1)
  else if char = '>' ∧ 2 ≤ brackets then none
  else some 0

/-- A comment ends at the first `>` behind `--` from the sixth character on, so that `<!-->` does
not end; the state holds the number of characters and of hyphens just read. -/
def commentStep : Nat × Nat → Char → Option (Nat × Nat)
  | (count, hyphens), char =>
    if char = '-' then some (count + 1, hyphens + 1)
    else if char = '>' ∧ 2 ≤ hyphens ∧ 5 ≤ count then none
    else some (count + 1, 0)

/-- A document type declaration ends at the `>` that balances its nested brackets; the state counts
the open ones. -/
def doctypeStep (depth : Nat) (char : Char) : Option Nat :=
  if char = '<' then some (depth + 1)
  else if char = '>' then (if depth = 0 then none else some (depth - 1))
  else some depth

/-- The name of an end tag: all of it, without white space at its end unless nothing else
remains. -/
def closeName (content : List Char) : List Char :=
  if content.all isMarkupBlank then content else Text.dropEndWhile isMarkupBlank content

/-- The start tag, empty element or end tag with the given content. -/
def ofTag (content : List Char) : Markup :=
  match content with
  | '/' :: name => closeTag (closeName name)
  | _ => if content.getLast? = some '/' then emptyTag content.dropLast else openTag content

/-- Uninterpreted data, given what stands between the brackets. -/
def ofData (content : List Char) : Except MarkupError Markup :=
  match "![CDATA[".toList.isPrefixOf? content with
  | some raw => .ok (data (raw.take (raw.length - 2)))
  | none => .error (.malformed .unclosedData)

/-- A comment, given what stands between the brackets. -/
def ofComment (content : List Char) : Except MarkupError Markup :=
  if "!--".toList.isPrefixOf content then .ok aside else .error (.malformed .unclosedComment)

/-- A document type declaration, given what stands between the brackets. -/
def ofDoctype (content : List Char) : Except MarkupError Markup :=
  match "!DOCTYPE".toList.isPrefixOf? (content.map Char.toUpper) with
  | none => .error (.malformed .unclosedDoctype)
  | some rest =>
    if rest.all isMarkupBlank then .error (.illFormed .missingDoctypeName) else .ok aside

/-- An instruction, given what stands between the brackets. -/
def ofInstruction (content : List Char) : Except MarkupError Markup :=
  if content.length = 1 then .error (.malformed .unclosedInstruction) else .ok aside

/-- Read one kind of markup: cut it out and classify its content. -/
def readWith {σ : Type} (step : σ → Char → Option σ) (start : σ) (unclosed : SyntaxError)
    (classify : List Char → Except MarkupError Markup) (input : List Char) :
    Except MarkupError (Markup × { rest : List Char // rest.length < input.length }) :=
  match found : cut step start input with
  | none => .error (.malformed unclosed)
  | some (content, rest) =>
    (classify content).map (fun markup => (markup, ⟨rest, length_of_cut found⟩))

/-- Read the markup behind a `<`. -/
def readBracketed (input : List Char) :
    Except MarkupError (Markup × { rest : List Char // rest.length < input.length }) :=
  match input.head?, input.tail.head? with
  | some '!', some '[' => readWith dataStep 0 .unclosedData ofData input
  | some '!', some '-' => readWith commentStep (0, 0) .unclosedComment ofComment input
  | some '!', some 'D' => readWith doctypeStep 0 .unclosedDoctype ofDoctype input
  | some '!', some 'd' => readWith doctypeStep 0 .unclosedDoctype ofDoctype input
  | some '!', _ => .error (.malformed .unknownMarkup)
  | some '?', _ => readWith instructionStep false .unclosedInstruction ofInstruction input
  | _, _ => readWith tagStep none .unclosedTag (fun content => .ok (ofTag content)) input

/-- Read the first piece of a text that does not begin with white space. -/
def readPiece (input : List Char) : Except MarkupError
    (Option (Markup × { rest : List Char // rest.length < input.length })) :=
  match input with
  | [] => .ok none
  | char :: rest =>
    if char = '<' then
      (readBracketed rest).map
        (fun (markup, ⟨behind, shorter⟩) => some (markup, ⟨behind, Nat.lt_succ_of_lt shorter⟩))
    else
      let raw := char :: rest.takeWhile (· != '<')
      .ok (some (text (Text.dropEndWhile isMarkupBlank raw),
        ⟨rest.dropWhile (· != '<'),
          Nat.lt_succ_of_le (List.dropWhile_suffix (· != '<')).sublist.length_le⟩))

/-- Read the first piece behind leading white space; a text of white space has none. -/
def next? (input : List Char) : Except MarkupError
    (Option (Markup × { rest : List Char // rest.length < input.length })) :=
  (readPiece (input.dropWhile isMarkupBlank)).map (fun piece? => piece?.map
    (fun (markup, ⟨behind, shorter⟩) => (markup, ⟨behind,
      Nat.lt_of_lt_of_le shorter (List.dropWhile_suffix isMarkupBlank).sublist.length_le⟩)))

end Markup

end RestModel.Xml

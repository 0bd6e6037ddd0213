import RestModel.Yaml.Error
import RestModel.Yaml.Token

/-!
# Events

The structure of a stream of documents, as a sequence of the beginnings and ends of its parts.  A
node that is left out, such as the value of a key at the end of a block, is an empty plain scalar.
-/

namespace RestModel.Yaml

/-- What an event says. -/
inductive EventKind where
  | streamStart
  | streamEnd
  | documentStart
  | documentEnd
  | aliasNode (name : String)
  | scalar (anchor : Option String) (tag : Option Tag) (text : String) (style : ScalarStyle)
  | sequenceStart (anchor : Option String)
  | sequenceEnd
  | mappingStart (anchor : Option String)
  | mappingEnd
  deriving DecidableEq

/-- An event with the place where its part starts. -/
structure Event where
  kind : EventKind
  mark : Mark

/-- What is expected next. -/
inductive Expectation where
  | streamStart
  | firstDocument
  | document
  | documentContent
  | documentEnd
  | blockNode
  | blockSequenceEntry
  | indentlessEntry
  | blockMappingKey
  | blockMappingValue
  | flowSequenceFirst
  | flowSequenceEntry
  | flowPairKey
  | flowPairValue
  | flowPairEnd
  | flowMappingFirst
  | flowMappingKey
  | flowMappingValue
  | flowMappingEmptyValue
  | nothing
  deriving DecidableEq

/-- The state of reading events. -/
structure Grammar where
  tokens : List Token
  /-- Why there are no more tokens, if not for the end of the text. -/
  failure : Option SyntaxError
  expected : Expectation
  /-- What is expected behind the parts that are still open, the innermost first. -/
  pending : List Expectation
  /-- Where the open collections started. -/
  starts : List Mark
  /-- The tag handles of the current document, with the beginnings of tags they stand for. -/
  handles : List (String × Tag)

namespace Grammar

/-- The outcome of one step: an event and the state behind it. -/
abbrev Step := Except SyntaxError (Event × Grammar)

/-- The next token. -/
def peek (grammar : Grammar) : Except SyntaxError Token :=
  match grammar.tokens with
  | token :: _ => .ok token
  | [] => .error (grammar.failure.getD (.misplaced .missingContent .start))

/-- The state behind the next token. -/
def skip (grammar : Grammar) : Grammar :=
  { grammar with tokens := grammar.tokens.tail }

/-- The state in which something else is expected. -/
def expect (grammar : Grammar) (expected : Expectation) : Grammar :=
  { grammar with expected := expected }

/-- The state behind a complete part. -/
def leave (grammar : Grammar) : Grammar :=
  match grammar.pending with
  | next :: rest => { grammar with expected := next, pending := rest }
  | [] => grammar.expect .nothing

/-- The state inside a part, behind which something is expected. -/
def enter (grammar : Grammar) (behind : Expectation) : Grammar :=
  { grammar with pending := behind :: grammar.pending }

/-- The place where the innermost open collection started. -/
def openMark (grammar : Grammar) : Mark :=
  grammar.starts.head?.getD .start

/-- The state behind the innermost open collection, whose last token comes next. -/
def leaveCollection (grammar : Grammar) : Grammar :=
  { grammar.leave with starts := grammar.starts.tail, tokens := grammar.tokens.tail }

/-- The empty scalar for a node that is left out. -/
def emptyScalar (grammar : Grammar) (mark : Mark) : Step :=
  .ok (⟨.scalar none none "" .plain, mark⟩, grammar)

/-! ## Nodes -/

/-- The anchor and the tag of a node, the tag with its handle and the place where it starts. -/
structure Properties where
  anchor : Option String
  tag : Option (String × Tag × Mark)

/-- Read the anchor and the tag of a node, each at most once and in either order. -/
def properties (grammar : Grammar) : Except SyntaxError (Properties × Grammar) := do
  let first ← grammar.peek
  match first.kind with
  | .anchor name =>
    let behind := grammar.skip
    let second ← behind.peek
    match second.kind with
    | .tag handle suffix => return (⟨some name, some (handle, suffix, second.start)⟩, behind.skip)
    | _ => return (⟨some name, none⟩, behind)
  | .tag handle suffix =>
    let behind := grammar.skip
    let second ← behind.peek
    match second.kind with
    | .anchor name => return (⟨some name, some (handle, suffix, first.start)⟩, behind.skip)
    | _ => return (⟨none, some (handle, suffix, first.start)⟩, behind)
  | _ => return (⟨none, none⟩, grammar)

/-- The full tag of a node that starts at a place. -/
def resolveTag (grammar : Grammar) (start : Mark) :
    Option (String × Tag × Mark) → Except SyntaxError (Option Tag)
  | none => .ok none
  | some (handle, suffix, mark) =>
    if handle = "" then .ok (some suffix)
    else
      match grammar.handles.lookup handle with
      | some beginning => .ok (some (beginning ++ suffix))
      | none => .error (.during .undefinedTagHandle mark .node start)

/-- The tag of a scalar: the lone exclamation mark counts as none. -/
def scalarTag (tag : Option Tag) : Option Tag :=
  tag.filter (· != .mark)

/-- Read the content of a node behind its anchor and tag. -/
def content (grammar : Grammar) (block indentless : Bool) (start : Mark) (anchor : Option String)
    (tag : Option Tag) : Step := do
  let token ← grammar.peek
  let sequence (expected : Expectation) : Step :=
    .ok (⟨.sequenceStart anchor, start⟩, grammar.expect expected)
  let mapping (expected : Expectation) : Step :=
    .ok (⟨.mappingStart anchor, start⟩, grammar.expect expected)
  match token.kind with
  | .scalar text style =>
    return (⟨.scalar anchor (scalarTag tag) text style, start⟩, grammar.leave.skip)
  | .flowSequenceStart => sequence .flowSequenceFirst
  | .flowMappingStart => mapping .flowMappingFirst
  | kind =>
    if indentless && kind = .blockEntry then sequence .indentlessEntry
    else if block && kind = .blockSequenceStart then
      return (⟨.sequenceStart anchor, start⟩,
        { grammar.skip.expect .blockSequenceEntry with starts := token.start :: grammar.starts })
    else if block && kind = .blockMappingStart then
      return (⟨.mappingStart anchor, start⟩,
        { grammar.skip.expect .blockMappingKey with starts := token.start :: grammar.starts })
    else if anchor.isSome || tag.isSome then
      return (⟨.scalar anchor tag "" .plain, start⟩, grammar.leave)
    else
      throw (.during .missingContent token.start (if block then .blockNode else .flowNode) start)

/-- Read the beginning of a node, or all of it if it is a scalar or an alias. -/
def node (grammar : Grammar) (block indentless : Bool) : Step := do
  let token ← grammar.peek
  match token.kind with
  | .aliasNode name => return (⟨.aliasNode name, token.start⟩, grammar.leave.skip)
  | _ =>
    let (found, behind) ← grammar.properties
    let tag ← behind.resolveTag token.start found.tag
    behind.content block indentless token.start found.anchor tag

/-- Read a node unless the next token is one of those that stand behind a node left out. -/
def nodeUnless (grammar : Grammar) (block indentless : Bool) (stops : List TokenKind)
    (behind : Expectation) (mark : Mark) : Step := do
  let token ← grammar.peek
  if stops.contains token.kind then (grammar.expect behind).emptyScalar mark
  else (grammar.enter behind).node block indentless

/-! ## Documents -/

/-- The handles that every document has. -/
def defaultHandles : List (String × Tag) :=
  [("!", .mark), ("!!", .knownBeginning)]

/-- The handles of a document with its own ones in front of those that every document has. -/
def withDefaults (handles : List (String × Tag)) : List (String × Tag) :=
  handles ++ defaultHandles

/-- Read the directives in front of a document. -/
def directives (versionSeen : Bool) (handles : List (String × Tag)) :
    List Token → Except SyntaxError (List (String × Tag) × List Token)
  | [] => .ok (handles, [])
  | token :: rest =>
    match token.kind with
    | .versionDirective major minor =>
      if versionSeen then .error (.misplaced .duplicateVersion token.start)
      else if major = 1 ∧ (minor = 1 ∨ minor = 2) then directives true handles rest
      else .error (.misplaced .incompatibleVersion token.start)
    | .tagDirective handle beginning =>
      if (handles.lookup handle).isSome then
        .error (.misplaced .duplicateTagDirective token.start)
      else directives versionSeen (handles ++ [(handle, beginning)]) rest
    | _ => .ok (handles, token :: rest)

/-- Whether a token can only stand between documents. -/
def isBoundary : TokenKind → Bool
  | .versionDirective _ _ => true
  | .tagDirective _ _ => true
  | .documentStart => true
  | .streamEnd => true
  | _ => false

/-- Read the beginning of a document that says where it starts, or the end of the stream. -/
def explicitDocument (grammar : Grammar) : Step := do
  let token ← grammar.peek
  if token.kind = .streamEnd then
    return (⟨.streamEnd, token.start⟩, grammar.skip.expect .nothing)
  let (handles, tokens) ← directives false [] grammar.tokens
  let behind := { grammar with tokens := tokens, handles := withDefaults handles }
  let first ← behind.peek
  if first.kind = .documentStart then
    return (⟨.documentStart, token.start⟩,
      (behind.skip.enter .documentEnd).expect .documentContent)
  else throw (.misplaced .missingDocumentStart first.start)

/-- Read the beginning of the first document, which need not say where it starts. -/
def firstDocument (grammar : Grammar) : Step := do
  let token ← grammar.peek
  if isBoundary token.kind then grammar.explicitDocument
  else
    return (⟨.documentStart, token.start⟩,
      ({ grammar with handles := defaultHandles }.enter .documentEnd).expect .blockNode)

/-- Skip the marks that end documents. -/
def skipDocumentEnds (grammar : Grammar) : Grammar :=
  { grammar with tokens := grammar.tokens.dropWhile (·.kind == .documentEnd) }

/-- Read the content of a document; it may be left out. -/
def documentContent (grammar : Grammar) : Step := do
  let token ← grammar.peek
  if isBoundary token.kind || token.kind = .documentEnd then
    grammar.leave.emptyScalar token.start
  else grammar.node true false

/-- Read the end of a document. -/
def documentEnd (grammar : Grammar) : Step := do
  let token ← grammar.peek
  let behind := if token.kind = .documentEnd then grammar.skip else grammar
  return (⟨.documentEnd, token.start⟩, { behind.expect .document with handles := [] })

/-! ## Block collections -/

/-- Read the next entry of a block sequence. -/
def blockSequenceEntry (grammar : Grammar) : Step := do
  let token ← grammar.peek
  match token.kind with
  | .blockEntry =>
    grammar.skip.nodeUnless true false [.blockEntry, .blockEnd] .blockSequenceEntry token.stop
  | .blockEnd => return (⟨.sequenceEnd, token.start⟩, grammar.leaveCollection)
  | _ => throw (.during .missingDash token.start .blockCollection grammar.openMark)

/-- Read the next entry of a sequence that is not indented below its key. -/
def indentlessEntry (grammar : Grammar) : Step := do
  let token ← grammar.peek
  if token.kind = .blockEntry then
    grammar.skip.nodeUnless true false [.blockEntry, .key, .value, .blockEnd] .indentlessEntry
      token.stop
  else return (⟨.sequenceEnd, token.start⟩, grammar.leave)

/-- The tokens that stand behind a key or a value left out of a block mapping. -/
def blockMappingStops : List TokenKind :=
  [.key, .value, .blockEnd]

/-- Read the next key of a block mapping. -/
def blockMappingKey (grammar : Grammar) : Step := do
  let token ← grammar.peek
  match token.kind with
  | .key =>
    grammar.skip.nodeUnless true true blockMappingStops .blockMappingValue token.stop
  | .blockEnd => return (⟨.mappingEnd, token.start⟩, grammar.leaveCollection)
  | _ => throw (.during .missingKey token.start .blockMapping grammar.openMark)

/-- Read the value of a key of a block mapping. -/
def blockMappingValue (grammar : Grammar) : Step := do
  let token ← grammar.peek
  if token.kind = .value then
    grammar.skip.nodeUnless true true blockMappingStops .blockMappingKey token.stop
  else (grammar.expect .blockMappingKey).emptyScalar token.start

/-! ## Flow collections -/

/-- Open a flow collection, whose first token comes next. -/
def openFlow (grammar : Grammar) : Except SyntaxError Grammar := do
  let token ← grammar.peek
  return { grammar.skip with starts := token.start :: grammar.starts }

/-- Read the comma in front of an entry of a flow collection. -/
def comma (grammar : Grammar) (problem : Problem) (context : Context) :
    Except SyntaxError Grammar := do
  let token ← grammar.peek
  if token.kind = .flowEntry then return grammar.skip
  else throw (.during problem token.start context grammar.openMark)

/-- Read the end of a flow sequence, or its next entry behind the comma.  An entry may be a single
pair. -/
def flowSequenceItem (grammar : Grammar) : Step := do
  let token ← grammar.peek
  match token.kind with
  | .flowSequenceEnd => return (⟨.sequenceEnd, token.start⟩, grammar.leaveCollection)
  | .key => return (⟨.mappingStart none, token.start⟩, grammar.skip.expect .flowPairKey)
  | _ => (grammar.enter .flowSequenceEntry).node false false

/-- Read what stands behind an entry of a flow sequence. -/
def flowSequenceEntry (grammar : Grammar) : Step := do
  let token ← grammar.peek
  if token.kind = .flowSequenceEnd then grammar.flowSequenceItem
  else (← grammar.comma .missingSequenceSeparator .flowSequence).flowSequenceItem

/-- Read the key of a pair in a flow sequence.  Where the key is left out, the token behind it is
skipped as well. -/
def flowPairKey (grammar : Grammar) : Step := do
  let token ← grammar.peek
  if [.value, .flowEntry, .flowSequenceEnd].contains token.kind then
    (grammar.skip.expect .flowPairValue).emptyScalar token.stop
  else (grammar.enter .flowPairValue).node false false

/-- Read the value of a pair in a flow sequence. -/
def flowPairValue (grammar : Grammar) : Step := do
  let token ← grammar.peek
  if token.kind = .value then
    let behind := grammar.skip
    let next ← behind.peek
    behind.nodeUnless false false [.flowEntry, .flowSequenceEnd] .flowPairEnd next.start
  else (grammar.expect .flowPairEnd).emptyScalar token.start

/-- Read the end of a pair in a flow sequence. -/
def flowPairEnd (grammar : Grammar) : Step := do
  let token ← grammar.peek
  return (⟨.mappingEnd, token.start⟩, grammar.expect .flowSequenceEntry)

/-- Read the end of a flow mapping, or its next key behind the comma. -/
def flowMappingItem (grammar : Grammar) : Step := do
  let token ← grammar.peek
  match token.kind with
  | .flowMappingEnd => return (⟨.mappingEnd, token.start⟩, grammar.leaveCollection)
  | .key =>
    let behind := grammar.skip
    let next ← behind.peek
    behind.nodeUnless false false [.value, .flowEntry, .flowMappingEnd] .flowMappingValue next.start
  | _ => (grammar.enter .flowMappingEmptyValue).node false false

/-- Read what stands behind a pair of a flow mapping. -/
def flowMappingKey (grammar : Grammar) : Step := do
  let token ← grammar.peek
  if token.kind = .flowMappingEnd then grammar.flowMappingItem
  else (← grammar.comma .missingMappingSeparator .flowMapping).flowMappingItem

/-- Read the value of a key of a flow mapping. -/
def flowMappingValue (grammar : Grammar) : Step := do
  let token ← grammar.peek
  if token.kind = .value then
    let behind := grammar.skip
    let next ← behind.peek
    behind.nodeUnless false false [.flowEntry, .flowMappingEnd] .flowMappingKey next.start
  else (grammar.expect .flowMappingKey).emptyScalar token.start

/-! ## The stream -/

/-- Read the beginning of the stream. -/
def streamStart (grammar : Grammar) : Step := do
  let token ← grammar.peek
  return (⟨.streamStart, token.start⟩, grammar.skip.expect .firstDocument)

/-- Read the next event; behind the end of the stream there is none. -/
def next? (grammar : Grammar) : Option Step :=
  match grammar.expected with
  | .streamStart => some grammar.streamStart
  | .firstDocument => some grammar.firstDocument
  | .document => some grammar.skipDocumentEnds.explicitDocument
  | .documentContent => some grammar.documentContent
  | .documentEnd => some grammar.documentEnd
  | .blockNode => some (grammar.node true false)
  | .blockSequenceEntry => some grammar.blockSequenceEntry
  | .indentlessEntry => some grammar.indentlessEntry
  | .blockMappingKey => some grammar.blockMappingKey
  | .blockMappingValue => some grammar.blockMappingValue
  | .flowSequenceFirst => some (grammar.openFlow >>= flowSequenceItem)
  | .flowSequenceEntry => some grammar.flowSequenceEntry
  | .flowPairKey => some grammar.flowPairKey
  | .flowPairValue => some grammar.flowPairValue
  | .flowPairEnd => some grammar.flowPairEnd
  | .flowMappingFirst => some (grammar.openFlow >>= flowMappingItem)
  | .flowMappingKey => some grammar.flowMappingKey
  | .flowMappingValue => some grammar.flowMappingValue
  | .flowMappingEmptyValue => some (do
      let token ← grammar.peek
      (grammar.expect .flowMappingKey).emptyScalar token.start)
  | .nothing => none

/-- Read at most `count` events, up to the end of the stream or the first error. -/
def run : Nat → Grammar → List Event × Option SyntaxError
  | 0, _ => ([], none)
  | count + 1, grammar =>
    match grammar.next? with
    | none => ([], none)
    | some (.error cause) => ([], some cause)
    | some (.ok (event, next)) =>
      let (others, failure) := run count next
      (event :: others, failure)

end Grammar

/-- The events of tokens up to the end of the stream or the first error.  A token brings at most
three events: its own and those of the nodes left out around it. -/
def Event.ofTokens (tokens : List Token) (failure : Option SyntaxError) :
    List Event × Option SyntaxError :=
  Grammar.run (4 * tokens.length + 8) {
    tokens := tokens
    failure := failure
    expected := .streamStart
    pending := []
    starts := []
    handles := [] }

end RestModel.Yaml

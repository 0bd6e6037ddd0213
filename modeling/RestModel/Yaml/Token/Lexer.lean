import RestModel.Yaml.Token.Property
import RestModel.Yaml.Token.Scalar

/-!
# Reading tokens

Blocks are told apart by indentation, and a key is recognized by the colon behind it.  So the reader
remembers where a key may have begun, on every level of flow collections, and holds back the tokens
from there on until it knows.  A key stands on one line and takes at most 1024 bytes.
-/

namespace RestModel.Yaml

/-- A place where a key may have begun. -/
structure KeyCandidate where
  /-- Whether nothing but a key can stand there. -/
  required : Bool
  /-- The number of the first token of the key. -/
  number : Nat
  mark : Mark

/-- The state of reading tokens. -/
structure Lexer where
  cursor : Cursor
  started : Bool
  ended : Bool
  /-- The column of the current block, or -1 outside of blocks. -/
  indent : Int
  /-- The columns of the blocks around the current one, the innermost first. -/
  outerIndents : List Int
  /-- Whether a key may begin here. -/
  keyAllowed : Bool
  /-- The key candidate of the current level, and those of the levels around it. -/
  candidate : Option KeyCandidate
  outerCandidates : List (Option KeyCandidate)
  /-- The tokens that were read and not yet handed out, with the number of those handed out. -/
  queue : List Token
  delivered : Nat

namespace Lexer

/-- The state before the first token. -/
def ofText (text : List Char) : Lexer where
  cursor := .ofText text
  started := false
  ended := false
  indent := -1
  outerIndents := []
  keyAllowed := false
  candidate := none
  outerCandidates := []
  queue := []
  delivered := 0

/-- Whether the current place is inside a flow collection. -/
def inFlow (lexer : Lexer) : Bool :=
  !lexer.outerCandidates.isEmpty

/-- The column of the current place. -/
def column (lexer : Lexer) : Int :=
  lexer.cursor.mark.column

/-- The state with one more token. -/
def push (lexer : Lexer) (token : Token) : Lexer :=
  { lexer with queue := lexer.queue ++ [token] }

/-- The state with a token put in front of the token with the given number. -/
def pushAt (lexer : Lexer) (number : Nat) (token : Token) : Lexer :=
  let place := number - lexer.delivered
  { lexer with queue := lexer.queue.take place ++ token :: lexer.queue.drop place }

/-- A token without characters at the current place. -/
def here (lexer : Lexer) (kind : TokenKind) : Token :=
  ⟨kind, lexer.cursor.mark, lexer.cursor.mark⟩

/-- Read a token of `count` characters. -/
def pushChars (lexer : Lexer) (kind : TokenKind) (count : Nat) : Lexer :=
  let next := lexer.cursor.skip count
  { lexer.push ⟨kind, lexer.cursor.mark, next.mark⟩ with cursor := next }

/-! ## Keys -/

/-- The error for a place where a key is missing its colon. -/
def missingColon (lexer : Lexer) (candidate : KeyCandidate) : SyntaxError :=
  .during .missingColon lexer.cursor.mark .simpleKey candidate.mark

/-- Whether a key that began at the candidate would be too long by now. -/
def isStale (lexer : Lexer) (candidate : KeyCandidate) : Bool :=
  candidate.mark.line < lexer.cursor.mark.line ||
    candidate.mark.offset + 1024 < lexer.cursor.mark.offset

/-- Give up a candidate that would be too long by now. -/
def refresh (lexer : Lexer) : Option KeyCandidate → Except SyntaxError (Option KeyCandidate)
  | none => .ok none
  | some candidate =>
    if !lexer.isStale candidate then .ok (some candidate)
    else if candidate.required then .error (lexer.missingColon candidate)
    else .ok none

/-- Give up the candidates of all levels that would be too long by now. -/
def dropStale (lexer : Lexer) : Except SyntaxError Lexer := do
  let outer ← lexer.outerCandidates.mapM lexer.refresh
  let candidate ← lexer.refresh lexer.candidate
  return { lexer with candidate := candidate, outerCandidates := outer }

/-- Give up the candidate of the current level. -/
def dropCandidate (lexer : Lexer) : Except SyntaxError Lexer :=
  match lexer.candidate with
  | none => .ok lexer
  | some candidate =>
    if candidate.required then .error (lexer.missingColon candidate)
    else .ok { lexer with candidate := none }

/-- Note that a key may begin here, where one is allowed. -/
def saveCandidate (lexer : Lexer) : Except SyntaxError Lexer :=
  if !lexer.keyAllowed then .ok lexer
  else do
    let cleared ← lexer.dropCandidate
    return { cleared with candidate := some {
      required := !lexer.inFlow && lexer.indent == lexer.column
      number := lexer.delivered + lexer.queue.length
      mark := lexer.cursor.mark } }

/-! ## Blocks -/

/-- Close the blocks that are indented further than a column. -/
def closeBlocks (lexer : Lexer) (column : Int) : Lexer :=
  if lexer.inFlow then lexer else go lexer.outerIndents lexer
where
  /-- Close blocks, given the columns of the blocks around the current one. -/
  go : List Int → Lexer → Lexer
    | [], lexer => lexer
    | outer :: rest, lexer =>
      if column < lexer.indent then
        go rest { lexer.push (lexer.here .blockEnd) with indent := outer, outerIndents := rest }
      else lexer

/-- Open a block at a column that is indented further than the current block, with a token in front
of the token with the given number, or at the end. -/
def openBlock (lexer : Lexer) (column : Nat) (number? : Option Nat) (kind : TokenKind)
    (mark : Mark) : Lexer :=
  if lexer.inFlow || (column : Int) ≤ lexer.indent then lexer
  else
    let opened :=
      match number? with
      | some number => lexer.pushAt number ⟨kind, mark, mark⟩
      | none => lexer.push ⟨kind, mark, mark⟩
    { opened with indent := column, outerIndents := lexer.indent :: lexer.outerIndents }

/-- Open a block at the current place, where one may begin. -/
def openBlockHere (lexer : Lexer) (kind : TokenKind) (problem : Problem) :
    Except SyntaxError Lexer :=
  if lexer.inFlow then .ok lexer
  else if !lexer.keyAllowed then .error (.misplaced problem lexer.cursor.mark)
  else .ok (lexer.openBlock lexer.cursor.mark.column none kind lexer.cursor.mark)

/-! ## Tokens -/

/-- Skip white space, comments and line breaks in front of a token.  A tab may not stand where a key
may begin.  A byte-order mark at the beginning of a line is skipped as well, and takes a column. -/
def skipToToken (lexer : Lexer) : Except SyntaxError Lexer := do
  let inFlow := lexer.inFlow
  let (keyAllowed, cursor) ← Cursor.repeatStep (fun keyAllowed cursor =>
    let cursor :=
      if cursor.mark.column = 0 ∧ cursor.startsWith '\uFEFF' then cursor.skip 1 else cursor
    let behind := (cursor.skipWhile (fun char =>
      char == ' ' || (char == '\t' && (inFlow || !keyAllowed)))).skipComment
    if behind.atBreak then
      .ok (.more (keyAllowed || !inFlow) behind.skipBreak)
    else .ok (.done keyAllowed behind)) lexer.keyAllowed lexer.cursor
  return { lexer with keyAllowed := keyAllowed, cursor := cursor }

/-- Leave all blocks and candidates, as the boundaries of a document do. -/
def leaveAll (lexer : Lexer) : Except SyntaxError Lexer := do
  let closed ← (lexer.closeBlocks (-1)).dropCandidate
  return { closed with keyAllowed := false }

/-- The end of the text, which counts as a line of its own. -/
def fetchEnd (lexer : Lexer) : Except SyntaxError Lexer := do
  let mark := lexer.cursor.mark
  let last : Mark := if mark.column = 0 then mark else ⟨mark.offset, mark.line + 1, 0⟩
  let left ← { lexer with cursor := ⟨last, []⟩ }.leaveAll
  return { left.push (left.here .streamEnd) with ended := true }

/-- A token that some function reads, where a key may begin with it. -/
def fetchNode (lexer : Lexer) (read : Cursor → Except SyntaxError (Token × Cursor)) :
    Except SyntaxError Lexer := do
  let saved ← lexer.saveCandidate
  let (token, next) ← read saved.cursor
  return { saved.push token with cursor := next, keyAllowed := false }

/-- A plain scalar.  Behind a scalar that is followed by a line break, a key may begin. -/
def fetchPlain (lexer : Lexer) : Except SyntaxError Lexer := do
  let saved ← lexer.saveCandidate
  let (token, broken, next) ←
    Token.readPlain lexer.inFlow (lexer.indent + 1).toNat saved.cursor
  return { saved.push token with cursor := next, keyAllowed := broken }

/-- A block scalar. -/
def fetchBlockScalar (lexer : Lexer) (literal : Bool) : Except SyntaxError Lexer := do
  let cleared ← lexer.dropCandidate
  let (token, next) ← Token.readBlock literal lexer.indent cleared.cursor
  return { cleared.push token with cursor := next, keyAllowed := true }

/-- The beginning of a flow collection. -/
def fetchFlowStart (lexer : Lexer) (kind : TokenKind) : Except SyntaxError Lexer := do
  let saved ← lexer.saveCandidate
  return { saved.pushChars kind 1 with
    candidate := none
    outerCandidates := saved.candidate :: saved.outerCandidates
    keyAllowed := true }

/-- The end of a flow collection. -/
def fetchFlowEnd (lexer : Lexer) (kind : TokenKind) : Except SyntaxError Lexer := do
  let cleared ← lexer.dropCandidate
  let left :=
    match cleared.outerCandidates with
    | candidate :: outer => { cleared with candidate := candidate, outerCandidates := outer }
    | [] => cleared
  return { left.pushChars kind 1 with keyAllowed := false }

/-- The comma between the entries of a flow collection. -/
def fetchFlowEntry (lexer : Lexer) : Except SyntaxError Lexer := do
  let cleared ← lexer.dropCandidate
  return { cleared.pushChars .flowEntry 1 with keyAllowed := true }

/-- The dash of a block sequence. -/
def fetchBlockEntry (lexer : Lexer) : Except SyntaxError Lexer := do
  let opened ← lexer.openBlockHere .blockSequenceStart .misplacedEntry
  let cleared ← opened.dropCandidate
  return { cleared.pushChars .blockEntry 1 with keyAllowed := true }

/-- The question mark of a key that is no simple one. -/
def fetchKey (lexer : Lexer) : Except SyntaxError Lexer := do
  let opened ← lexer.openBlockHere .blockMappingStart .misplacedKey
  let cleared ← opened.dropCandidate
  return { cleared.pushChars .key 1 with keyAllowed := !lexer.inFlow }

/-- The colon in front of a value.  It makes the candidate of its level a key. -/
def fetchValue (lexer : Lexer) : Except SyntaxError Lexer :=
  match lexer.candidate with
  | some candidate =>
    let keyed := lexer.pushAt candidate.number ⟨.key, candidate.mark, candidate.mark⟩
    let opened := keyed.openBlock candidate.mark.column (some candidate.number) .blockMappingStart
      candidate.mark
    .ok { opened.pushChars .value 1 with candidate := none, keyAllowed := false }
  | none => do
    let opened ← lexer.openBlockHere .blockMappingStart .misplacedValue
    return { opened.pushChars .value 1 with keyAllowed := !lexer.inFlow }

/-- A directive. -/
def fetchDirective (lexer : Lexer) : Except SyntaxError Lexer := do
  let left ← lexer.leaveAll
  let (token, next) ← Token.readDirective left.cursor
  return { left.push token with cursor := next }

/-- A line that begins or ends a document. -/
def fetchDocumentIndicator (lexer : Lexer) (kind : TokenKind) : Except SyntaxError Lexer := do
  let left ← lexer.leaveAll
  return left.pushChars kind 3

/-- Whether a plain scalar may begin with a character. -/
def startsPlain (lexer : Lexer) (char : Char) : Bool :=
  if char == '-' then !(lexer.cursor.peekAt? 1).any isBlank
  else if char == '?' || char == ':' then !lexer.inFlow && !lexer.cursor.blankOrEndAt 1
  else !(isBlank char || isBreak char || ",[]\x7b\x7d#&*!|>'\"%@\x60".toList.contains char)

/-- Read the token that begins with a character. -/
def fetchFrom (lexer : Lexer) (char : Char) : Except SyntaxError Lexer :=
  let blankNext := lexer.cursor.blankOrEndAt 1
  if lexer.cursor.mark.column == 0 && char == '%' then lexer.fetchDirective
  else if lexer.cursor.atIndicator '-' then lexer.fetchDocumentIndicator .documentStart
  else if lexer.cursor.atIndicator '.' then lexer.fetchDocumentIndicator .documentEnd
  else if char == '[' then lexer.fetchFlowStart .flowSequenceStart
  else if char == '\x7b' then lexer.fetchFlowStart .flowMappingStart
  else if char == ']' then lexer.fetchFlowEnd .flowSequenceEnd
  else if char == '\x7d' then lexer.fetchFlowEnd .flowMappingEnd
  else if char == ',' then lexer.fetchFlowEntry
  else if char == '-' && blankNext then lexer.fetchBlockEntry
  else if char == '?' && (lexer.inFlow || blankNext) then lexer.fetchKey
  else if char == ':' && (lexer.inFlow || blankNext) then lexer.fetchValue
  else if char == '*' then lexer.fetchNode (Token.readAnchor true)
  else if char == '&' then lexer.fetchNode (Token.readAnchor false)
  else if char == '!' then lexer.fetchNode (Token.readTag lexer.inFlow)
  else if char == '|' && !lexer.inFlow then lexer.fetchBlockScalar true
  else if char == '>' && !lexer.inFlow then lexer.fetchBlockScalar false
  else if char == '\'' then lexer.fetchNode (Token.readQuoted char .singleQuoted)
  else if char == '"' then lexer.fetchNode (Token.readQuoted char .doubleQuoted)
  else if lexer.startsPlain char then lexer.fetchPlain
  else .error (.during .badTokenStart lexer.cursor.mark .nextToken lexer.cursor.mark)

/-- Read the next token behind white space, or the end of the text. -/
def fetchNext (lexer : Lexer) : Except SyntaxError Lexer := do
  let lexer ← (← lexer.skipToToken).dropStale
  let lexer := lexer.closeBlocks lexer.column
  match lexer.cursor.peek? with
  | none => lexer.fetchEnd
  | some char => lexer.fetchFrom char

/-- Read more tokens: first the beginning of the text, then one token after the other. -/
def fetch (lexer : Lexer) : Except SyntaxError Lexer :=
  if lexer.started then lexer.fetchNext
  else .ok { lexer.push (lexer.here .streamStart) with started := true, keyAllowed := true }

/-- Whether the first token of the queue has to wait, because a key may begin with it. -/
def waits (lexer : Lexer) : Bool :=
  (lexer.candidate :: lexer.outerCandidates).any
    (fun candidate? => candidate?.any (·.number == lexer.delivered))

/-- What is left to read. -/
def remaining (lexer : Lexer) : Nat :=
  lexer.cursor.rest.length + (if lexer.started then 0 else 1) + (if lexer.ended then 0 else 1)

/-- Give up candidates that would be too long, and tell whether the first token of the queue can be
handed out. -/
def settle (lexer : Lexer) : Except SyntaxError (Lexer × Bool) :=
  if lexer.queue.isEmpty then .ok (lexer, lexer.ended)
  else lexer.dropStale.map (fun fresh => (fresh, !fresh.waits))

/-- Read tokens until the first of the queue can be handed out. -/
def fill (lexer : Lexer) : Except SyntaxError Lexer :=
  match lexer.settle with
  | .error cause => .error cause
  | .ok (settled, true) => .ok settled
  | .ok (settled, false) =>
    match settled.fetch with
    | .error cause => .error cause
    | .ok next => if next.remaining < lexer.remaining then fill next else .ok next
termination_by lexer.remaining

/-- Hand out at most `count` tokens, up to the end of the text or the first error. -/
def run : Nat → Lexer → List Token × Option SyntaxError
  | 0, _ => ([], none)
  | count + 1, lexer =>
    match lexer.fill with
    | .error cause => ([], some cause)
    | .ok filled =>
      match filled.queue with
      | [] => ([], none)
      | token :: rest =>
        let (others, failure) :=
          run count { filled with queue := rest, delivered := filled.delivered + 1 }
        (token :: others, failure)

end Lexer

namespace Token

/-- Whether a YAML text may hold a character. -/
def isReadable (char : Char) : Bool :=
  let code := char.toNat
  code == 9 || code == 0xA || code == 0xD || (0x20 ≤ code && code ≤ 0x7E) || code == 0x85 ||
    (0xA0 ≤ code && code ≤ 0xD7FF) || (0xE000 ≤ code && code ≤ 0xFFFD) || 0x10000 ≤ code

/-- The byte offset of the first character that a text may not hold. -/
def unreadableOffset? (offset : Nat) : List Char → Option Nat
  | [] => none
  | char :: rest =>
    if isReadable char then unreadableOffset? (offset + char.utf8Size) rest else some offset

/-- The tokens of a text up to its end or the first error.  One character brings at most five
tokens: a key, the blocks it opens, and their ends. -/
def ofText (text : List Char) : List Token × Option SyntaxError :=
  match unreadableOffset? 0 text with
  | some place => ([], some (.unreadable .controlCharacter place))
  | none => (Lexer.ofText text).run (5 * text.length + 10)

end Token

end RestModel.Yaml

import RestModel.Yaml.Cursor

/-!
# YAML errors

What can be wrong with the form of a YAML text, and what was being read at that place.
-/

namespace RestModel.Yaml

/-- What is wrong with a text. -/
inductive Problem where
  | controlCharacter
  | badTokenStart
  | missingColon
  | misplacedEntry
  | misplacedKey
  | misplacedValue
  | unknownDirective
  | missingDirectiveName
  | badDirectiveName
  | missingDirectiveEnd
  | missingVersionDot
  | longVersionNumber
  | missingVersionNumber
  | missingTagMark
  | missingTagUri
  | missingWhitespace
  | missingLineEnd
  | missingTagBracket
  | badUriEscape
  | badUriLeadingOctet
  | badUriTrailingOctet
  | badAnchorName
  | zeroIndentation
  | missingBlockLineEnd
  | tabInIndentation
  | documentInQuotes
  | endInQuotes
  | unknownEscape
  | badHexEscape
  | badCharEscape
  | misplacedColon
  | tabBreaksIndentation
  | missingDocumentStart
  | duplicateVersion
  | incompatibleVersion
  | duplicateTagDirective
  | undefinedTagHandle
  | missingContent
  | missingDash
  | missingKey
  | missingSequenceSeparator
  | missingMappingSeparator
  deriving DecidableEq

/-- The text of a problem. -/
def Problem.text : Problem → String
  | controlCharacter => "control characters are not allowed"
  | badTokenStart => "found character that cannot start any token"
  | missingColon => "could not find expected ':'"
  | misplacedEntry => "block sequence entries are not allowed in this context"
  | misplacedKey => "mapping keys are not allowed in this context"
  | misplacedValue => "mapping values are not allowed in this context"
  | unknownDirective => "found unknown directive name"
  | missingDirectiveName => "could not find expected directive name"
  | badDirectiveName => "found unexpected non-alphabetical character"
  | missingDirectiveEnd => "did not find expected comment or line break"
  | missingVersionDot => "did not find expected digit or '.' character"
  | longVersionNumber => "found extremely long version number"
  | missingVersionNumber => "did not find expected version number"
  | missingTagMark => "did not find expected '!'"
  | missingTagUri => "did not find expected tag URI"
  | missingWhitespace => "did not find expected whitespace"
  | missingLineEnd => "did not find expected whitespace or line break"
  | missingTagBracket => "did not find the expected '>'"
  | badUriEscape => "did not find URI escaped octet"
  | badUriLeadingOctet => "found an incorrect leading UTF-8 octet"
  | badUriTrailingOctet => "found an incorrect trailing UTF-8 octet"
  | badAnchorName => "did not find expected alphabetic or numeric character"
  | zeroIndentation => "found an indentation indicator equal to 0"
  | missingBlockLineEnd => "did not find expected comment or line break"
  | tabInIndentation => "found a tab character where an indentation space is expected"
  | documentInQuotes => "found unexpected document indicator"
  | endInQuotes => "found unexpected end of stream"
  | unknownEscape => "found unknown escape character"
  | badHexEscape => "did not find expected hexadecimal number"
  | badCharEscape => "found invalid Unicode character escape code"
  | misplacedColon => "found unexpected ':'"
  | tabBreaksIndentation => "found a tab character that violates indentation"
  | missingDocumentStart => "did not find expected <document start>"
  | duplicateVersion => "found duplicate %YAML directive"
  | incompatibleVersion => "found incompatible YAML document"
  | duplicateTagDirective => "found duplicate %TAG directive"
  | undefinedTagHandle => "found undefined tag handle"
  | missingContent => "did not find expected node content"
  | missingDash => "did not find expected '-' indicator"
  | missingKey => "did not find expected key"
  | missingSequenceSeparator => "did not find expected ',' or ']'"
  | missingMappingSeparator => "did not find expected ',' or '\x7d'"

/-- What was being read when a problem was found. -/
inductive Context where
  | nextToken
  | simpleKey
  | directive
  | versionDirective
  | tagDirectiveScan
  | tagDirectiveHandle
  | tagDirectiveName
  | tagDirectiveUri
  | tagScan
  | tagUri
  | anchor
  | aliasNode
  | blockScalar
  | quotedScalar
  | quotedEscape
  | plainScalar
  | node
  | blockNode
  | flowNode
  | blockCollection
  | blockMapping
  | flowSequence
  | flowMapping
  deriving DecidableEq

/-- The text of a context. -/
def Context.text : Context → String
  | nextToken => "while scanning for the next token"
  | simpleKey => "while scanning a simple key"
  | directive => "while scanning a directive"
  | versionDirective => "while scanning a %YAML directive"
  | tagDirectiveScan => "while scanning a %TAG directive"
  | tagDirectiveHandle => "while scanning a tag directive"
  | tagDirectiveName => "while parsing a tag directive"
  | tagDirectiveUri => "while parsing a %TAG directive"
  | tagScan => "while scanning a tag"
  | tagUri => "while parsing a tag"
  | anchor => "while scanning an anchor"
  | aliasNode => "while scanning an alias"
  | blockScalar => "while scanning a block scalar"
  | quotedScalar => "while scanning a quoted scalar"
  | quotedEscape => "while parsing a quoted scalar"
  | plainScalar => "while scanning a plain scalar"
  | node => "while parsing a node"
  | blockNode => "while parsing a block node"
  | flowNode => "while parsing a flow node"
  | blockCollection => "while parsing a block collection"
  | blockMapping => "while parsing a block mapping"
  | flowSequence => "while parsing a flow sequence"
  | flowMapping => "while parsing a flow mapping"

/-- Why a text is not YAML. -/
inductive SyntaxError where
  /-- A character that no YAML text may hold, at a byte offset. -/
  | unreadable (problem : Problem) (offset : Nat)
  /-- A problem at a place, without a word on what was being read. -/
  | misplaced (problem : Problem) (mark : Mark)
  /-- A problem at a place, with what was being read and where that began. -/
  | during (problem : Problem) (mark : Mark) (context : Context) (start : Mark)
  deriving DecidableEq

/-- The place of a problem as a message goes on with it; the very beginning of a text is left
out. -/
def placeText (mark : Mark) : String :=
  if mark.isOrigin then "" else " at " ++ mark.text

/-- The text of a syntax error.  The beginning of what was being read is left out where it is the
place of the problem. -/
def SyntaxError.message : SyntaxError → String
  | unreadable problem offset =>
    problem.text ++ (if offset = 0 then "" else " at position " ++ toString offset)
  | misplaced problem mark => problem.text ++ placeText mark
  | during problem mark context start =>
    problem.text ++ placeText mark ++ ", " ++ context.text ++
      (if start.line = mark.line ∧ start.column = mark.column then "" else placeText start)

end RestModel.Yaml

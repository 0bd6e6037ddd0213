import RestModel.Text.Quoted
import RestModel.Yaml.Document
import RestModel.Yaml.Plain

/-!
# Decoding documents

A decoder reads one value from the parts of a document and knows the path of the value, for its
messages.  A decoder that meets something else than it expects says what it found, and where.
-/

namespace RestModel.Yaml

/-- What is wrong with a value. -/
inductive ValueProblem where
  /-- Something of another type than expected. -/
  | invalidType (found expected : String)
  /-- A scalar whose tag does not fit its text. -/
  | invalidValue (found expected : String)
  | duplicateField (name : String)
  deriving DecidableEq

/-- The text of a problem with a value. -/
def ValueProblem.text : ValueProblem → String
  | invalidType found expected => "invalid type: " ++ found ++ ", expected " ++ expected
  | invalidValue found expected => "invalid value: " ++ found ++ ", expected " ++ expected
  | duplicateField name => "duplicate field `" ++ name ++ "`"

/-- Why a value cannot be decoded. -/
inductive DecodeError where
  | load (error : LoadError)
  /-- The document ends inside the value. -/
  | endOfDocument
  | value (problem : ValueProblem) (path : String) (mark : Mark)
  deriving DecidableEq

/-- The text of a decode error. -/
def DecodeError.message : DecodeError → String
  | load error => error.message
  | endOfDocument => "EOF while parsing a value"
  | value problem path mark =>
    (if path = "" then "" else path ++ ": ") ++ problem.text ++ placeText mark

/-! ## What was found -/

/-- What a plain scalar is called where something else is expected. -/
def plainFound (text : String) : String :=
  match PlainValue.ofText text with
  | .null => "unit value"
  | .bool value => "boolean `" ++ (if value then "true" else "false") ++ "`"
  | .integer value width => "integer `" ++ toString value ++ "`" ++ width
  | .float shown => "floating point `" ++ shown ++ "`"
  | .text => "string " ++ Text.quoted text

/-- What a text is called where something else is expected. -/
def textFound (text : String) : String :=
  "string " ++ Text.quoted text

/-- The problem with a scalar tagged as a value of a type, where something else is expected. -/
def taggedProblem (fits : Bool) (text found typeName expected : String) : ValueProblem :=
  if fits then .invalidType found expected else .invalidValue (textFound text) typeName

/-- The problem with a scalar where something else is expected. -/
def scalarProblem (tag : Option Tag) (text : String) (style : ScalarStyle)
    (expected : String) : ValueProblem :=
  match tag.bind ScalarType.ofTag? with
  | some .bool =>
    taggedProblem (PlainValue.bool? text).isSome text (plainFound text) "a boolean" expected
  | some .integer =>
    taggedProblem (PlainValue.integer? text.toList).isSome text (plainFound text) "an integer"
      expected
  | some .float =>
    match PlainValue.float? text with
    | some shown => .invalidType ("floating point `" ++ shown ++ "`") expected
    | none => .invalidValue (textFound text) "a float"
  | some .null => taggedProblem (PlainValue.isNull text) text "unit value" "null" expected
  | none =>
    if style = .plain ∧ tag.all Tag.isLocal then .invalidType (plainFound text) expected
    else .invalidType (textFound text) expected

/-- The problem with a part where something else is expected. -/
def Part.problem (part : Part) (expected : String) : ValueProblem :=
  match part with
  | scalar tag text style => scalarProblem tag text style expected
  | mappingStart => .invalidType "map" expected
  | _ => .invalidType "sequence" expected

/-! ## Decoders -/

/-- A decoder of one value: given the path of the value and the parts from it on, it yields the
value and the parts behind it. -/
abbrev Decoder (α : Type) := String → Parts → Except DecodeError (α × Parts)

/-- The path of the value of a key. -/
def keyPath (path key : String) : String :=
  if path = "" then key else path ++ "." ++ key

/-- The path of the value of a key that is not written out. -/
def unknownPath (path : String) : String :=
  keyPath path "?"

/-- The path of an entry of a sequence. -/
def entryPath (path : String) (index : Nat) : String :=
  (if path = "" then "." else path) ++ "[" ++ toString index ++ "]"

namespace Document

/-- The error where a document has no more parts. -/
def endError (document : Document) : DecodeError :=
  match document.failure with
  | some error => .load error
  | none => .endOfDocument

/-- The next part. -/
def next (document : Document) : Parts → Except DecodeError (Part × Mark × Parts)
  | [] => .error document.endError
  | (part, mark) :: rest => .ok (part, mark, rest)

/-- A value whose first part was read. -/
structure Opened where
  part : Part
  mark : Mark
  /-- The parts behind the first one. -/
  inside : Parts
  /-- The parts behind the alias by which the value was reached, if it was. -/
  behindAlias : Option Parts

/-- Read the first part of a value, following an alias. -/
def openValue (document : Document) (parts : Parts) : Except DecodeError Opened := do
  let (part, mark, rest) ← document.next parts
  match part with
  | .aliasNode slot =>
    let (part, mark, inside) ← document.next (document.partsAt slot)
    return ⟨part, mark, inside, some rest⟩
  | _ => return ⟨part, mark, rest, none⟩

/-- The parts behind a value that ends in front of the given parts. -/
def Opened.leave (opened : Opened) (behind : Parts) : Parts :=
  opened.behindAlias.getD behind

/-- The error for a value that is something else than expected. -/
def Opened.unexpected (opened : Opened) (path expected : String) : DecodeError :=
  .value (opened.part.problem expected) path opened.mark

/-- Whether the value is an empty plain scalar. -/
def Opened.isBlank (opened : Opened) : Bool :=
  match opened.part with
  | .scalar _ text style => text.isEmpty && style == .plain
  | _ => false

/-- Skip a value; `depth` collections are open. -/
def skipFrom (document : Document) : Nat → Parts → Except DecodeError Parts
  | _, [] => .error document.endError
  | depth, (part, _) :: rest =>
    let depth :=
      match part with
      | .sequenceStart => depth + 1
      | .mappingStart => depth + 1
      | .sequenceEnd => depth - 1
      | .mappingEnd => depth - 1
      | _ => depth
    if depth = 0 then .ok rest else skipFrom document depth rest

/-- Skip one value. -/
def skipValue (document : Document) (parts : Parts) : Except DecodeError Parts :=
  document.skipFrom 0 parts

/-- Decode a scalar as its text, whatever it looks like. -/
def decodeText (document : Document) (expected : String) : Decoder String := fun path parts => do
  let opened ← document.openValue parts
  match opened.part with
  | .scalar _ text _ => return (text, opened.leave opened.inside)
  | _ => throw (opened.unexpected path expected)

/-- Decode the entries of a sequence from the given one on, up to its end. -/
def decodeEntries {α : Type} (document : Document) (entry : Decoder α) (path : String)
    (index : Nat) (parts : Parts) : Except DecodeError (List α × Parts) := do
  let (part, _, rest) ← document.next parts
  if part = .sequenceEnd then return ([], rest)
  let (value, behind) ← entry (entryPath path index) parts
  if behind.length < parts.length then
    let (values, last) ← decodeEntries document entry path (index + 1) behind
    return (value :: values, last)
  else return ([value], behind)
termination_by parts.length

/-- Decode a sequence; an empty plain scalar is a sequence without entries. -/
def decodeSequence {α : Type} (document : Document) (entry : Decoder α) : Decoder (List α) :=
  fun path parts => do
    let opened ← document.openValue parts
    if opened.part = .sequenceStart then
      let (values, behind) ← document.decodeEntries entry path 0 opened.inside
      return (values, opened.leave behind)
    else if opened.isBlank then return ([], opened.leave opened.inside)
    else throw (opened.unexpected path "a sequence")

/-- A field of a record: its name and the decoder of its value, which changes the record. -/
structure FieldDecoder (ρ : Type) where
  name : String
  decode : Decoder (ρ → ρ)

/-- Decode the pairs of a mapping up to its end.  Every field may occur once, and keys that name no
field are skipped with their values.  `mark` is the place of the mapping. -/
def decodePairs {ρ : Type} (document : Document) (fields : List (FieldDecoder ρ)) (path : String)
    (mark : Mark) (seen : List String) (record : ρ) (parts : Parts) :
    Except DecodeError (ρ × Parts) := do
  let (part, _, rest) ← document.next parts
  if part = .mappingEnd then return (record, rest)
  let (key, behindKey) ← document.decodeText "field identifier" path parts
  let valuePath :=
    match part with
    | .aliasNode _ => unknownPath path
    | _ => keyPath path key
  let (record, behind) ←
    match fields.find? (·.name == key) with
    | none => do
      let behind ← document.skipValue behindKey
      pure (record, behind)
    | some field =>
      if seen.contains key then throw (.value (.duplicateField key) path mark)
      else do
        let (change, behind) ← field.decode valuePath behindKey
        pure (change record, behind)
  if behind.length < parts.length then
    decodePairs document fields path mark (key :: seen) record behind
  else return (record, behind)
termination_by parts.length

/-- Decode a record with the given fields; fields that are left out keep the values of `start`.  An
empty plain scalar is a record without fields. -/
def decodeRecord {ρ : Type} (document : Document) (expected : String)
    (fields : List (FieldDecoder ρ)) (start : ρ) : Decoder ρ := fun path parts => do
  let opened ← document.openValue parts
  if opened.part = .mappingStart then
    let (record, behind) ←
      document.decodePairs fields path opened.mark [] start opened.inside
    return (record, opened.leave behind)
  else if opened.isBlank then return (start, opened.leave opened.inside)
  else throw (opened.unexpected path expected)

/-- Decode a whole document: an empty one is `blank`.  An error of a value comes before an error of
the document behind it. -/
def decode {α : Type} (document : Document) (blank : α) (decoder : Decoder α) :
    Except DecodeError α := do
  let value ←
    if document.parts.isEmpty && document.failure.isNone then pure blank
    else do
      let (value, _) ← decoder "" document.parts
      pure value
  match document.failure with
  | some error => throw (.load error)
  | none => if document.isFollowed then throw (.load .severalDocuments) else return value

end Document

end RestModel.Yaml

import RestModel.OrderedMap
import RestModel.Yaml.Event
import RestModel.Yaml.Token.Lexer

/-!
# Documents

The first document of a text, as the sequence of its parts.  Reading ends at the first error, and
the parts in front of it are kept.

An anchor puts its node into a slot, and an alias stands for the last node of a slot.  The slot of
an anchor is the number of different anchors in front of it.  So an anchor that is set again moves
to another slot, and the next new anchor takes the same one.
-/

namespace RestModel.Yaml

/-- A part of a document. -/
inductive Part where
  /-- A repetition of the last node of a slot. -/
  | aliasNode (slot : Nat)
  | scalar (tag : Option Tag) (text : String) (style : ScalarStyle)
  | sequenceStart
  | sequenceEnd
  | mappingStart
  | mappingEnd
  deriving DecidableEq

/-- Why a text is not a document. -/
inductive LoadError where
  | malformed (error : SyntaxError)
  | unknownAnchor (mark : Mark)
  | severalDocuments
  deriving DecidableEq

/-- The text of a load error. -/
def LoadError.message : LoadError → String
  | malformed error => error.message
  | unknownAnchor mark => "unknown anchor" ++ placeText mark
  | severalDocuments =>
    "deserializing from YAML containing more than one document is not supported"

/-- Parts with the places where they start. -/
abbrev Parts := List (Part × Mark)

/-- The first document of a text. -/
structure Document where
  parts : Parts
  /-- The slots with the places of their last nodes among the parts. -/
  slots : OrderedMap Nat Nat
  /-- Why the document ends too early. -/
  failure : Option LoadError
  /-- Whether another document stands behind it. -/
  isFollowed : Bool

namespace Document

/-- The parts from the last node of a slot on. -/
def partsAt (document : Document) (slot : Nat) : Parts :=
  match document.slots.get? slot with
  | some place => document.parts.drop place
  | none => []

/-- A document while it is loaded. -/
structure Loading where
  /-- The parts so far, the last one first. -/
  reversed : Parts
  /-- The anchors so far with their slots. -/
  anchors : OrderedMap String Nat
  slots : OrderedMap Nat Nat

/-- The state before the first part. -/
def Loading.empty : Loading :=
  ⟨[], .empty, .empty⟩

/-- The state in which the next part is the node of an anchor. -/
def Loading.setAnchor (loading : Loading) (name : String) : Loading :=
  let slot := loading.anchors.keys.length
  { loading with
    anchors := loading.anchors.insert name slot
    slots := loading.slots.insert slot loading.reversed.length }

/-- The state with one more part, which may have an anchor. -/
def Loading.add (loading : Loading) (anchor : Option String) (part : Part) (mark : Mark) :
    Loading :=
  let anchored := anchor.elim loading loading.setAnchor
  { anchored with reversed := (part, mark) :: anchored.reversed }

/-- The document of the parts loaded so far. -/
def Loading.finish (loading : Loading) (failure : Option LoadError) (isFollowed : Bool) :
    Document :=
  ⟨loading.reversed.reverse, loading.slots, failure, isFollowed⟩

/-- Whether events do not lead to the end of the stream at once. -/
def hasMore : List Event → Bool
  | event :: _ => event.kind != .streamEnd
  | [] => true

/-- Load the events of the first document. -/
def load (failure : Option SyntaxError) (loading : Loading) : List Event → Document
  | [] => loading.finish (failure.map .malformed) false
  | event :: rest =>
    match event.kind with
    | .streamStart => load failure loading rest
    | .documentStart => load failure loading rest
    | .streamEnd => loading.finish none false
    | .documentEnd => loading.finish none (hasMore rest)
    | .aliasNode name =>
      match loading.anchors.get? name with
      | some slot => load failure (loading.add none (.aliasNode slot) event.mark) rest
      | none => loading.finish (some (.unknownAnchor event.mark)) false
    | .scalar anchor tag text style =>
      load failure (loading.add anchor (.scalar tag text style) event.mark) rest
    | .sequenceStart anchor => load failure (loading.add anchor .sequenceStart event.mark) rest
    | .sequenceEnd => load failure (loading.add none .sequenceEnd event.mark) rest
    | .mappingStart anchor => load failure (loading.add anchor .mappingStart event.mark) rest
    | .mappingEnd => load failure (loading.add none .mappingEnd event.mark) rest

/-- The first document of a text. -/
def ofText (text : String) : Document :=
  let (tokens, tokenFailure) := Token.ofText text.toList
  let (events, failure) := Event.ofTokens tokens tokenFailure
  load failure .empty events

end Document

end RestModel.Yaml

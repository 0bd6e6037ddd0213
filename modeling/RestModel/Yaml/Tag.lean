/-!
# Tags

A tag names the type of a node.  A tag may spell its octets by escapes, and those need not make up
characters, so a tag is a sequence of octets and not a text.
-/

namespace RestModel.Yaml

/-- The octets of a tag, or of a part of one. -/
structure Tag where
  octets : List UInt8
  deriving DecidableEq

namespace Tag

/-- The tag that a text spells without escapes. -/
def ofText (text : String) : Tag :=
  ⟨text.toList.flatMap String.utf8EncodeChar⟩

/-- A tag of a beginning and a rest. -/
def append (beginning rest : Tag) : Tag :=
  ⟨beginning.octets ++ rest.octets⟩

instance : Append Tag :=
  ⟨append⟩

theorem octets_append (beginning rest : Tag) :
    (beginning ++ rest).octets = beginning.octets ++ rest.octets :=
  rfl

/-- The tag that octets spell: it ends in front of the first octet that is zero. -/
def ofOctets (octets : List UInt8) : Tag :=
  ⟨octets.takeWhile (· != 0)⟩

/-- The lone exclamation mark. -/
def mark : Tag :=
  ofText "!"

/-- Whether the tag begins with an exclamation mark. -/
def isLocal (tag : Tag) : Bool :=
  tag.octets.head? == some 0x21

/-- What the tags of the types that every document knows begin with. -/
def knownBeginning : Tag :=
  ofText "tag:yaml.org,2002:"

end Tag

/-- The types that a tag can give to a scalar. -/
inductive ScalarType where
  | bool
  | integer
  | float
  | null
  deriving DecidableEq

namespace ScalarType

/-- The name of a type in its tag. -/
def name : ScalarType → String
  | bool => "bool"
  | integer => "int"
  | float => "float"
  | null => "null"

/-- The tag of a type. -/
def tag (type : ScalarType) : Tag :=
  .knownBeginning ++ .ofText type.name

/-- The type that a tag gives to a scalar. -/
def ofTag? (tag : Tag) : Option ScalarType :=
  [bool, integer, float, null].find? (·.tag == tag)

theorem ofTag?_tag (type : ScalarType) : ofTag? type.tag = some type := by
  cases type <;> decide

end ScalarType

end RestModel.Yaml

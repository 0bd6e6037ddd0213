import RestModel.Naming

/-!
# Elements

The tree of an XML document.  Elements are looked up by their local names, so that the namespace
prefix a document chooses for its tags does not matter.
-/

namespace RestModel.Xml

/-- An element with its attributes, its child elements and its own character data. -/
structure Element where
  /-- The qualified name as written. -/
  name : String
  attributes : List (String × String)
  children : List Element
  /-- The character data directly inside the element, each run trimmed, without separators. -/
  text : String

namespace Element

/-- The element of that name without any content. -/
def empty (name : String) : Element :=
  ⟨name, [], [], ""⟩

instance : Inhabited Element := ⟨empty ""⟩

/-- The name without its prefix. -/
def localName (element : Element) : String :=
  Naming.localPart element.name

/-- The value of the attribute with exactly that key. -/
def attribute? (element : Element) (key : String) : Option String :=
  element.attributes.lookup key

/-- The child elements with that local name, in document order. -/
def childrenNamed (element : Element) (name : String) : List Element :=
  element.children.filter (·.localName == name)

/-- The first child element with that local name. -/
def child? (element : Element) (name : String) : Option Element :=
  element.children.find? (·.localName == name)

/-- The element with one more child behind the others. -/
def addChild (element child : Element) : Element :=
  { element with children := element.children ++ [child] }

/-- The element with more character data behind its own. -/
def addText (element : Element) (text : String) : Element :=
  { element with text := element.text ++ text }

end Element

end RestModel.Xml

import RestModel.Xml.Attribute
import RestModel.Xml.Element

/-!
# Documents

The pieces of a document are put together to the tree of its first top-level element.  What stands
behind that element must be well-formed too, but does not count.
-/

namespace RestModel.Xml

/-- The state of reading a document: the elements that are still open, the innermost first, and the
first complete top-level element. -/
structure Reading where
  opened : List Element
  root : Option Element

namespace Reading

/-- The state before the first piece. -/
def start : Reading :=
  ⟨[], none⟩

/-- Take a complete element: as a child of the innermost open one, or as the root if there is none
yet. -/
def attach (reading : Reading) (element : Element) : Reading :=
  match reading.opened with
  | parent :: outer => { reading with opened := parent.addChild element :: outer }
  | [] => { reading with root := reading.root <|> some element }

/-- Add character data to the innermost open element; outside of the root there is none. -/
def addText (reading : Reading) (text : List Char) : Reading :=
  match reading.opened with
  | parent :: outer =>
    { reading with opened := parent.addText (String.ofList (Text.trimChars text)) :: outer }
  | [] => reading

/-- The element of a tag, without content. -/
def elementOfTag (content : List Char) : Except DocumentError Element :=
  (Attribute.readAll content).map
    (fun attributes => ⟨String.ofList (Attribute.tagName content), attributes, [], ""⟩)

/-- Close the innermost open element by an end tag of its name. -/
def close (reading : Reading) (name : String) : Except DocumentError Reading :=
  match reading.opened with
  | [] => .error (.markup (.illFormed (.unmatchedEnd name)))
  | element :: outer =>
    if element.name = name then .ok ({ reading with opened := outer }.attach element)
    else .error (.markup (.illFormed (.mismatchedEnd element.name name)))

/-- Take the next piece of a document. -/
def feed (reading : Reading) : Markup → Except DocumentError Reading
  | .openTag content =>
    (elementOfTag content).map
      (fun element => { reading with opened := element :: reading.opened })
  | .emptyTag content => (elementOfTag content).map reading.attach
  | .closeTag name => reading.close (String.ofList name)
  | .text raw =>
    if reading.opened.isEmpty then .ok reading
    else
      match unescape raw with
      | .error cause => .error (.markup (.escape cause))
      | .ok text => .ok (reading.addText text)
  | .data raw => .ok (reading.addText raw)
  | .aside => .ok reading

/-- Read the pieces of a text one after the other. -/
def run (reading : Reading) (input : List Char) : Except DocumentError Reading :=
  match Markup.next? input with
  | .error cause => .error (.markup cause)
  | .ok none => .ok reading
  | .ok (some (markup, ⟨rest, _⟩)) => do run (← reading.feed markup) rest
termination_by input.length

/-- The root element, once every element is closed. -/
def finish (reading : Reading) : Except DocumentError Element :=
  match reading.opened, reading.root with
  | element :: _, _ => .error (.unbalancedTag element.name)
  | [], some root => .ok root
  | [], none => .error .emptyDocument

end Reading

/-- The text without a byte-order mark at its beginning. -/
def dropByteOrderMark : List Char → List Char
  | [] => []
  | char :: rest => if char = '\uFEFF' then rest else char :: rest

/-- The root element of a document. -/
def parse (text : String) : Except DocumentError Element := do
  let reading ← Reading.start.run (dropByteOrderMark text.toList)
  reading.finish

end RestModel.Xml

import RestModel.Proofs.Lists
import RestModel.Proofs.Naming
import RestModel.Xml.Element

/-!
# Trees without prefixes and cardinality

A tree is stripped when its elements have lost their namespace prefixes and the attributes that say
how often an element may occur.  An element keeps its local name and every other attribute, so the
same children are found in the stripped tree, each of them stripped.
-/

namespace RestModel.Xml.Element

/-- Whether the attribute says how often an element may occur. -/
def isCardinality (key : String) : Bool :=
  key == "minOccurs" || key == "maxOccurs"

mutual

/-- The tree without the prefixes of its elements and without cardinality. -/
def stripped : Element → Element
  | ⟨name, attributes, children, text⟩ =>
    ⟨Naming.localPart name, attributes.filter (fun entry => !isCardinality entry.1),
      strippedAll children, text⟩

/-- The trees without the prefixes of their elements and without cardinality. -/
def strippedAll : List Element → List Element
  | [] => []
  | node :: rest => stripped node :: strippedAll rest

end

theorem strippedAll_eq_map (nodes : List Element) : strippedAll nodes = nodes.map stripped := by
  induction nodes with
  | nil => rfl
  | cons node rest ih => rw [strippedAll, List.map_cons, ih]

variable (element : Element)

theorem stripped_eq : element.stripped =
    ⟨Naming.localPart element.name,
      element.attributes.filter (fun entry => !isCardinality entry.1),
      element.children.map stripped, element.text⟩ := by
  obtain ⟨name, attributes, children, text⟩ := element
  rw [stripped, strippedAll_eq_map]

@[simp] theorem children_stripped : element.stripped.children = element.children.map stripped := by
  rw [stripped_eq]

@[simp] theorem text_stripped : element.stripped.text = element.text := by
  rw [stripped_eq]

@[simp] theorem localName_stripped : element.stripped.localName = element.localName := by
  rw [localName, stripped_eq, Naming.localPart_localPart, localName]

theorem isCardinality_eq_false {key : String} (hmin : key ≠ "minOccurs")
    (hmax : key ≠ "maxOccurs") : isCardinality key = false := by
  rw [isCardinality, beq_false_of_ne hmin, beq_false_of_ne hmax, Bool.or_false]

/-- Attributes other than those of cardinality are kept. -/
@[simp] theorem attribute?_stripped {key : String} (hmin : key ≠ "minOccurs")
    (hmax : key ≠ "maxOccurs") : element.stripped.attribute? key = element.attribute? key := by
  have hkept : (!isCardinality key) = true := by
    rw [isCardinality_eq_false hmin hmax, Bool.not_false]
  rw [attribute?, stripped_eq, attribute?]
  exact lookup_filter_of_kept (fun other => !isCardinality other) hkept element.attributes

@[simp] theorem childrenNamed_stripped (name : String) :
    element.stripped.childrenNamed name = (element.childrenNamed name).map stripped := by
  rw [childrenNamed, children_stripped, List.filter_map, childrenNamed]
  simp only [Function.comp_def, localName_stripped]

@[simp] theorem child?_stripped (name : String) :
    element.stripped.child? name = (element.child? name).map stripped := by
  rw [child?, children_stripped, List.find?_map, child?]
  simp only [Function.comp_def, localName_stripped]

end RestModel.Xml.Element

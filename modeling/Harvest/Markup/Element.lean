import Harvest.Markup.Node

/-! An element in its document: its content, the siblings on both sides, and the element around it. -/

namespace Harvest.Markup

/-- An element together with its surroundings. -/
inductive Element where
  | mk (tag : Tag) (children : List Node) (before after : List Node) (parent : Option Element)
  deriving Inhabited

namespace Element

/-- What identifies the element. -/
def tag : Element → Tag
  | mk tag _ _ _ _ => tag

/-- The nodes inside the element. -/
def children : Element → List Node
  | mk _ children _ _ _ => children

/-- The nodes in front of the element under the same parent, nearest first. -/
def before : Element → List Node
  | mk _ _ before _ _ => before

/-- The nodes behind the element under the same parent, nearest first. -/
def after : Element → List Node
  | mk _ _ _ after _ => after

/-- The element around this one; the root has none. -/
def parent? : Element → Option Element
  | mk _ _ _ _ parent => parent

/-- The elements around this one, innermost first. -/
def ancestors : Element → List Element
  | mk _ _ _ _ none => []
  | mk _ _ _ _ (some parent) => parent :: ancestors parent

/-- The elements in front of this one under the same parent, nearest first. -/
def earlier (element : Element) : List Element :=
  go element.parent? element.before (.element element.tag element.children :: element.after)
where
  /-- Walks outward over the nodes in front, collecting those passed. -/
  go (parent : Option Element) : List Node → List Node → List Element
    | [], _ => []
    | node :: before, after =>
      match node with
      | .element tag children => mk tag children before after parent :: go parent before (node :: after)
      | _ => go parent before (node :: after)

/-- The text inside the element. -/
def text (element : Element) : String :=
  textOfNodes element.children

/-- The value of an attribute. -/
def attribute? (element : Element) (name : String) : Option String :=
  element.tag.attribute? name

mutual

/-- The elements inside a node in document order, the node itself first. -/
def ofNode (before after : List Node) (parent : Option Element) : Node → List Element
  | .element tag children =>
    let element := mk tag children before after parent
    element :: ofNodes [] (some element) children
  | _ => []

/-- The elements inside nodes that stand side by side, in document order. -/
def ofNodes (before : List Node) (parent : Option Element) : List Node → List Element
  | [] => []
  | node :: rest => ofNode before rest parent node ++ ofNodes (node :: before) parent rest

end

/-- The elements inside an element in document order, the element itself left out. -/
def descendants (element : Element) : List Element :=
  ofNodes [] (some element) element.children

/-- The root element of a document. -/
def root? (nodes : List Node) : Option Element :=
  (ofNodes [] none nodes).head?

end Element

end Harvest.Markup

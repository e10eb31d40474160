import Harvest.Markup.Token

/-! Document trees: elements with attributes and children, texts and comments. -/

namespace Harvest.Markup

/-- The vocabulary that an element belongs to. -/
inductive Vocabulary where
  | html
  | svg
  | math
  deriving DecidableEq, Repr, Inhabited

/-- What identifies an element: its vocabulary, its name and its attributes. -/
structure Tag where
  vocabulary : Vocabulary := .html
  name : String
  attributes : Attributes := []
  deriving DecidableEq, Repr, Inhabited

/-- The value of an attribute. -/
def Tag.attribute? (tag : Tag) (name : String) : Option String :=
  tag.attributes.lookup name

/-- A node of a document tree. -/
inductive Node where
  | element (tag : Tag) (children : List Node)
  | text (content : String)
  | comment (content : String)
  deriving Repr, Inhabited

mutual

/-- The text inside a node, comments left out. -/
def Node.textContent : Node → String
  | .element _ children => textOfNodes children
  | .text content => content
  | .comment _ => ""

/-- The texts inside nodes, one after the other. -/
def textOfNodes : List Node → String
  | [] => ""
  | node :: rest => node.textContent ++ textOfNodes rest

end

/-- The element of a node, if it is one. -/
def Node.tag? : Node → Option Tag
  | .element tag _ => some tag
  | _ => none

end Harvest.Markup

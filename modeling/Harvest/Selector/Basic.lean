import Harvest.Markup.Element

/-! Selectors: conditions on an element and on the elements around it. -/

namespace Harvest.Selector

/-- How the element of a left-hand compound is related to that on the right. -/
inductive Combinator where
  | descendant
  | child
  | nextSibling
  | laterSibling
  deriving DecidableEq, Repr, Inhabited

/-- How an attribute value is compared. -/
inductive AttributeTest where
  | equals
  /-- One of the words is equal. -/
  | hasWord
  /-- Equal, or equal up to a hyphen. -/
  | equalsOrHyphen
  | startsWith
  | endsWith
  | holds
  deriving DecidableEq, Repr, Inhabited

/-- Whether letters are compared with regard to case. -/
inductive LetterCase where
  /-- As the attribute has it: some attributes of the main vocabulary disregard case. -/
  | byName
  | ignored
  | kept
  deriving DecidableEq, Repr, Inhabited

mutual

/-- A condition on one element. -/
inductive Simple where
  | anyElement
  /-- The name as written; elements of the main vocabulary compare in lower case. -/
  | named (name : String)
  /-- No element satisfies it. -/
  | nothing
  | id (value : String)
  | className (value : String)
  | hasAttribute (name : String)
  | attribute (name : String) (test : AttributeTest) (value : String) (letterCase : LetterCase)
  | root
  | empty
  /-- The element that the search starts from. -/
  | scope
  /-- The position among the siblings, counted from one, is `step · n + start` for some `n`. -/
  | position (step start : Int) (fromEnd sameType : Bool)
  | not (alternatives : List Complex)
  | oneOf (alternatives : List Complex)

/-- Conditions on an element and, joined to them by combinators, on elements around it. -/
inductive Complex where
  | compound (conditions : List Simple)
  | join (left : Complex) (combinator : Combinator) (conditions : List Simple)

end

instance : Inhabited Simple := ⟨.anyElement⟩
instance : Inhabited Complex := ⟨.compound []⟩

end Harvest.Selector

namespace Harvest

/-- A list of alternatives, one of which must match. -/
structure Selector where
  alternatives : List Selector.Complex
  deriving Inhabited

end Harvest

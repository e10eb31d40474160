import Harvest.Selector.Basic
import Harvest.Text.Blank
import Harvest.Text.Pieces

/-! Which elements a selector matches. Conditions to the left of a combinator may be met by elements outside
the element that the search starts from. -/

namespace Harvest.Selector

open Markup (Element)

/-- The attributes of the main vocabulary whose values disregard case. -/
def caselessAttributes : List String :=
  ["accept", "accept-charset", "align", "alink", "axis", "bgcolor", "charset", "checked", "clear",
    "codetype", "color", "compact", "declare", "defer", "dir", "direction", "disabled", "enctype", "face",
    "frame", "hreflang", "http-equiv", "lang", "language", "link", "media", "method", "multiple", "nohref",
    "noresize", "noshade", "nowrap", "readonly", "rel", "rev", "rules", "scope", "scrolling", "selected",
    "shape", "target", "text", "type", "valign", "valuetype", "vlink"]

/-- Is the element one of the main vocabulary? -/
def isMain (element : Element) : Bool :=
  element.tag.vocabulary == .html

/-- The words of a text, split at single blanks. -/
def words (s : List Char) : List (List Char) :=
  match s with
  | [] => [[]]
  | c :: rest =>
    if c = ' ' ∨ c = '\t' ∨ c = '\n' ∨ c = '\r' ∨ c = '\x0c' then [] :: words rest
    else match words rest with
      | [] => [[c]]
      | word :: others => (c :: word) :: others

/-- Compares an attribute value with the one that is asked for. -/
def AttributeTest.holdsFor (test : AttributeTest) (wanted actual : List Char) : Bool :=
  match test with
  | equals => actual == wanted
  | hasWord => !wanted.isEmpty && (words actual).contains wanted
  | equalsOrHyphen => actual == wanted || (wanted ++ ['-']).isPrefixOf actual
  | startsWith => !wanted.isEmpty && wanted.isPrefixOf actual
  | endsWith => !wanted.isEmpty && wanted.isSuffixOf actual
  | holds => !wanted.isEmpty && Text.holds wanted actual

/-- Does the value of an attribute satisfy the condition? -/
def attributeMatches (element : Element) (name : String) (test : AttributeTest) (wanted : String)
    (letterCase : LetterCase) : Bool :=
  let lower := Text.lower name
  let ignored := match letterCase with
    | .ignored => true
    | .kept => false
    | .byName => isMain element && caselessAttributes.contains lower
  let fold (s : List Char) : List Char := if ignored then s.map Char.toLower else s
  match element.attribute? (if isMain element then lower else name) with
  | some actual => test.holdsFor (fold wanted.toList) (fold actual.toList)
  | none => false

/-- The classes of an element: the words of its attribute, split at white space. -/
def classes (element : Element) : List (List Char) :=
  match element.attribute? "class" with
  | none => []
  | some value => (go value.toList).filter (!·.isEmpty)
where
  /-- Splits at every white space character. -/
  go : List Char → List (List Char)
    | [] => [[]]
    | c :: rest =>
      if Text.isBlank c then [] :: go rest
      else match go rest with
        | [] => [[c]]
        | word :: others => (c :: word) :: others

/-- Is `n` a member of the series `step · k + start` with `k` from zero on? -/
def inSeries (step start n : Int) : Bool :=
  if step = 0 then n = start else (n - start) % step = 0 && 0 ≤ (n - start) / step

/-- The position among the siblings, counted from one. -/
def positionOf (element : Element) (fromEnd sameType : Bool) : Int :=
  let side := if fromEnd then element.after else element.before
  let counted (node : Markup.Node) : Bool :=
    match node.tag? with
    | some tag =>
      !sameType || (tag.name == element.tag.name && tag.vocabulary == element.tag.vocabulary)
    | none => false
  (side.filter counted).length + 1

/-- Does the element hold neither elements nor text? -/
def isEmptyElement (element : Element) : Bool :=
  element.children.all fun
    | .comment _ => true
    | _ => false

/-- Are two elements at the same place of one document? Their ways up have the same siblings in front. -/
def samePlace (a b : Element) : Bool :=
  let way (element : Element) : List Nat :=
    element.before.length :: element.ancestors.map fun outer => outer.before.length
  way a == way b

mutual

/-- Does the element satisfy a condition? `start` is the element that the search starts from. -/
def Simple.holds (start : Option Element) : Simple → Element → Bool
  | .anyElement, _ => true
  | .nothing, _ => false
  | .named name, element => element.tag.name == (if isMain element then Text.lower name else name)
  | .id value, element => element.attribute? "id" == some value
  | .className value, element => (classes element).contains value.toList
  | .hasAttribute name, element =>
    (element.attribute? (if isMain element then Text.lower name else name)).isSome
  | .attribute name test value letterCase, element => attributeMatches element name test value letterCase
  | .root, element => element.parent?.isNone
  | .empty, element => isEmptyElement element
  | .scope, element =>
    match start with
    | some other => samePlace element other
    | none => element.parent?.isNone
  | .position step first fromEnd sameType, element =>
    inSeries step first (positionOf element fromEnd sameType)
  | .not alternatives, element => !anyHolds start alternatives element
  | .oneOf alternatives, element => anyHolds start alternatives element

/-- Does the element satisfy all conditions? -/
def allHold (start : Option Element) : List Simple → Element → Bool
  | [], _ => true
  | condition :: rest, element => condition.holds start element && allHold start rest element

/-- Does the element satisfy the conditions, and elements around it those to the left? -/
def Complex.holds (start : Option Element) : Complex → Element → Bool
  | .compound conditions, element => allHold start conditions element
  | .join left combinator conditions, element =>
    allHold start conditions element &&
      match combinator with
      | .descendant => element.ancestors.any (left.holds start)
      | .child => element.parent?.any (left.holds start)
      | .nextSibling => element.earlier.head?.any (left.holds start)
      | .laterSibling => element.earlier.any (left.holds start)

/-- Does the element match one of the alternatives? -/
def anyHolds (start : Option Element) : List Complex → Element → Bool
  | [], _ => false
  | complex :: rest, element => complex.holds start element || anyHolds start rest element

end

/-- Does the selector match an element? -/
def accepts (selector : Selector) (start : Option Element) (element : Element) : Bool :=
  Selector.anyHolds start selector.alternatives element

/-- The matching elements inside an element, in document order. -/
def select (selector : Selector) (scope : Element) : List Element :=
  scope.descendants.filter (selector.accepts (some scope))

/-- The matching elements of a document, in document order. -/
def selectAll (selector : Selector) (nodes : List Markup.Node) : List Element :=
  (Element.ofNodes [] none nodes).filter (selector.accepts none)

end Harvest.Selector

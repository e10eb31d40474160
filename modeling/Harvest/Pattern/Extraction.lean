import Harvest.Markup.Document
import Harvest.Pattern.Evaluation
import Harvest.Selector.Matching

/-! Applying a pattern to markup text. -/

namespace Harvest

open Markup (Element)

/-- A page read from markup text. -/
def documentView : View Element where
  select scope selector := selector.select scope
  text := Element.text
  attribute? := Element.attribute?

/-- What a pattern finds on a page, starting from the root element. -/
def Pattern.extract (pattern : Pattern) (source parentValue : String) : Evaluation :=
  match Element.root? (Markup.parseDocument source) with
  | some root => pattern.evaluate documentView parentValue root
  | none => .wrongPage

end Harvest

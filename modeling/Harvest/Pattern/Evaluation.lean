import Harvest.Json.Basic
import Harvest.Pattern.Basic
import Harvest.Text.Blank

/-! What a pattern finds on a page: a record, the wrong page, or content that is of no use. The page is given
by any way of selecting elements and of reading text and attributes. -/

namespace Harvest

/-- What evaluation asks of a page. -/
structure View (Element : Type) where
  /-- The matching elements inside a scope, in document order. -/
  select : Element → Selector → List Element
  text : Element → String
  attribute? : Element → String → Option String

/-- What a pattern finds. -/
inductive Evaluation where
  /-- The extracted fields; there is at least one. -/
  | record (fields : Fields)
  /-- An element that must be there is missing. -/
  | wrongPage
  /-- The page has the expected form, but its content is of no use. -/
  | invalid
  deriving Repr, Inhabited

namespace Evaluation

/-- A record with at least one field, or nothing of use. -/
def ofFields (fields : Fields) : Evaluation :=
  if fields.isEmpty then .invalid else .record fields

end Evaluation

namespace Pattern

/-- The text that a value is read from. -/
def rawValue (view : View Element) (element : Element) : ValueSource → String
  | .text => view.text element
  | .attribute name => (view.attribute? element name).getD ""

/-- The value after all changes, white space at its ends removed first. -/
def cleaned (cleanups : List Cleanup) (raw : String) : String :=
  cleanups.foldl Cleanup.apply (Text.trim raw)

/-- The value of an element: cleaned, not empty, and passing its comparison. -/
def valueOf? (view : View Element) (source : ValueSource) (cleanups : List Cleanup)
    (validation : Option Validation) (parentValue : String) (element : Element) : Option String :=
  let value := cleaned cleanups (rawValue view element source)
  if value = "" then none
  else match validation with
    | none => some value
    | some validation =>
      if validation.equation.evaluate value parentValue then
        match validation.target with
        | .value => some value
        | .parentValue => some parentValue
      else none

/-- Evaluates the inner pattern under each match and files the outcomes under the numbers of the matches;
the first outcome that is no record ends it. -/
def collect (run : Element → Evaluation) : Nat → Fields → List Element → Evaluation
  | _, fields, [] => .ofFields fields
  | index, fields, element :: rest =>
    match run element with
    | .record inner => collect run (index + 1) (fields.insert (toString index) (.object inner)) rest
    | other => other

mutual

/-- Evaluates a pattern inside a scope. Selections match elements inside the scope, never the scope itself. -/
def evaluate (view : View Element) (parentValue : String) : Pattern → Element → Evaluation
  | .selection _ selector source cleanups validation inner, scope =>
    match view.select scope selector with
    | [] => .wrongPage
    | first :: rest =>
      let value : Option Fields := match source with
        | none => some []
        | some source =>
          (valueOf? view source cleanups validation parentValue first).map fun value =>
            [("value", .string value)]
      match value with
      | none => .invalid
      | some fields => evaluateInner view parentValue inner fields (first :: rest)
  | .group members, scope => evaluateMembers view parentValue members scope []

/-- Adds the outcomes of the inner pattern, if there is one, to the fields found so far. -/
def evaluateInner (view : View Element) (parentValue : String) :
    Option Pattern → Fields → List Element → Evaluation
  | none, fields, _ => .ofFields fields
  | some inner, fields, found => collect (evaluate view parentValue inner) 0 fields found

/-- Evaluates the members of a group in order; the first outcome that is no record ends it. -/
def evaluateMembers (view : View Element) (parentValue : String) :
    List (String × Pattern) → Element → Fields → Evaluation
  | [], _, fields => .ofFields fields
  | (name, member) :: rest, scope, fields =>
    match evaluate view parentValue member scope with
    | .record inner =>
      evaluateMembers view parentValue rest scope (fields.insert name (.object inner))
    | other => other

end

end Pattern

end Harvest

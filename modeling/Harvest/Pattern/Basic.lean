import Harvest.Equation.Reader
import Harvest.Selector.Basic

/-! Extraction patterns: trees of selectors that say what a page must hold and which values to take from it. -/

namespace Harvest

/-- Where a value is read. -/
inductive ValueSource where
  /-- The text inside the first matching element. -/
  | text
  /-- An attribute of the first matching element. -/
  | attribute (name : String)
  deriving DecidableEq, Repr, Inhabited

/-- A change of an extracted value. -/
inductive Cleanup where
  /-- Keeps the piece of the given number, counted from zero. -/
  | split (separator : String) (index : Nat)
  | replace (old new : String)
  deriving DecidableEq, Repr, Inhabited

/-- The value after the change. Without a piece of the given number it stays as it is. -/
def Cleanup.apply (value : String) : Cleanup → String
  | .split separator index =>
    match (Text.split separator.toList value.toList)[index]? with
    | some piece => String.ofList piece
    | none => value
  | .replace old new => Text.replaceAll old new value

/-- What a value becomes that passes its comparison. -/
inductive ValidationTarget where
  /-- It stays. -/
  | value
  /-- The value from the listing page takes its place. -/
  | parentValue
  deriving DecidableEq, Repr, Inhabited

/-- A comparison that a value must pass. -/
structure Validation where
  equation : Equation
  target : ValidationTarget
  deriving DecidableEq, Repr, Inhabited

/-- A pattern. -/
inductive Pattern where
  /-- Selects elements, takes a value from the first and applies the inner pattern to each. -/
  | selection (source : String) (selector : Selector) (value : Option ValueSource)
      (cleanups : List Cleanup) (validation : Option Validation) (inner : Option Pattern)
  /-- Named patterns for one scope. -/
  | group (members : List (String × Pattern))
  deriving Inhabited

namespace Pattern

/-- What is wrong with the form of a pattern. -/
inductive Misshape where
  | noObject
  | selectorNoText
  | unsupportedValue (spec : String)
  | cleanupsNoObject
  | validationNoObject
  | validationIncomplete
  deriving DecidableEq, Repr, Inhabited

/-- The wording of a fault. -/
def Misshape.message : Misshape → String
  | noObject => "expected an object"
  | selectorNoText => "'pattern' must be a string"
  | unsupportedValue spec => "unsupported value spec '" ++ spec ++ "'"
  | cleanupsNoObject => "'postprocess' must be an object"
  | validationNoObject => "'validation' must be an object"
  | validationIncomplete => "validation needs 'equation' and 'targetValue' strings"

/-- Why a text is no pattern. -/
inductive Error where
  /-- It is no document text. -/
  | json
  | selector (source : String)
  | equation (source : String) (cause : Equation.Error)
  | shape (path : String) (fault : Misshape)
  deriving DecidableEq, Repr, Inhabited

/-- The wording of a cause, as far as it is fixed. -/
def Error.message : Error → String
  | json => "Invalid pattern JSON: "
  | selector source => "Invalid selector '" ++ source ++ "': "
  | equation source cause => "Invalid validation equation '" ++ source ++ "': " ++ cause.message
  | shape path fault => "Invalid pattern node at '" ++ path ++ "': " ++ fault.message

end Pattern

end Harvest

import Harvest.Number.Decimal
import Harvest.Text.Blank

/-! Comparisons that an extracted value must pass: two operands that read as numbers are compared as
numbers, all others as texts. -/

namespace Harvest

/-- The six ways to compare. -/
inductive Comparator where
  | eq
  | ne
  | lt
  | le
  | gt
  | ge
  deriving DecidableEq, Repr, Inhabited

namespace Comparator

/-- The written form. -/
def symbol : Comparator → String
  | eq => "=="
  | ne => "!="
  | lt => "<"
  | le => "<="
  | gt => ">"
  | ge => ">="

/-- The comparator with a given written form. -/
def ofSymbol? (token : List Char) : Option Comparator :=
  [eq, ne, lt, le, gt, ge].find? fun comparator => comparator.symbol.toList == token

/-- Does the comparison hold between operands in the given order? -/
def holds : Comparator → Ordering → Bool
  | eq, order => order == .eq
  | ne, order => order != .eq
  | lt, order => order == .lt
  | le, order => order != .gt
  | gt, order => order == .gt
  | ge, order => order != .lt

end Comparator

/-- One side of a comparison. -/
inductive Operand where
  /-- The extracted value. -/
  | value
  /-- The value carried over from the listing page. -/
  | parentValue
  | literal (text : String)
  deriving DecidableEq, Repr, Inhabited

/-- The text that an operand stands for. -/
def Operand.resolve (value parentValue : String) : Operand → String
  | .value => value
  | .parentValue => parentValue
  | .literal text => text

/-- The comparison of two operands. -/
structure Equation where
  left : Operand
  comparator : Comparator
  right : Operand
  deriving DecidableEq, Repr, Inhabited

namespace Equation

/-- The number that a text reads as, white space at its ends aside. -/
def number? (text : String) : Option Binary64 :=
  Decimal.binary64? (Text.trimChars text.toList)

/-- The order of two operand texts: by number if both are numbers, else by code points. Two numbers one of
which is no number have no order. -/
def order? (left right : String) : Option Ordering :=
  match number? left, number? right with
  | some x, some y => x.compare? y
  | _, _ => some (compareOfLessAndEq left right)

/-- Does the comparison hold? Without an order between the operands it does not. -/
def evaluate (equation : Equation) (value parentValue : String) : Bool :=
  match order? (equation.left.resolve value parentValue) (equation.right.resolve value parentValue) with
  | some order => equation.comparator.holds order
  | none => false

end Equation

end Harvest

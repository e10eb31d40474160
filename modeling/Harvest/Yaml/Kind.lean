import Harvest.Number.Decimal

/-! What a plain scalar stands for: nothing, a truth value, a number, or a text. -/

namespace Harvest.Yaml

/-- Is nothing written? -/
def isNullText (text : String) : Bool :=
  ["", "~", "null", "Null", "NULL"].contains text

/-- The truth value that is written. -/
def flagOf? (text : String) : Option Bool :=
  if ["true", "True", "TRUE"].contains text then some true
  else if ["false", "False", "FALSE"].contains text then some false
  else none

/-- The value of a digit to a base up to sixteen. -/
def digitOf? (base : Nat) (c : Char) : Option Nat :=
  let value :=
    if c.isDigit then c.toNat - '0'.toNat
    else if 'a' ≤ c ∧ c ≤ 'f' then c.toNat - 'a'.toNat + 10
    else if 'A' ≤ c ∧ c ≤ 'F' then c.toNat - 'A'.toNat + 10
    else 16
  if value < base then some value else none

/-- The number that some digits stand for; there is one digit at least. -/
def digitsOf? (base : Nat) (digits : List Char) : Option Nat :=
  if digits.isEmpty then none
  else digits.foldlM (fun value c => (digitOf? base c).map (base * value + ·)) 0

/-- The number that some digits behind a mark of their base stand for. -/
def marked? : List Char → Option Nat
  | '0' :: 'x' :: digits => digitsOf? 16 digits
  | '0' :: 'o' :: digits => digitsOf? 8 digits
  | '0' :: 'b' :: digits => digitsOf? 2 digits
  | _ => none

/-- Is a text made of digits, a zero in front of others? Such a text is no number. -/
def isPadded (text : List Char) : Bool :=
  match (Decimal.signed text).2 with
  | '0' :: c :: rest => (c :: rest).all Char.isDigit
  | _ => false

/-- A whole number in decimal digits without padding, or behind the mark of another base. -/
def magnitude? (text : List Char) : Option Nat :=
  (marked? text).or (if isPadded text then none else digitsOf? 10 text)

/-- A whole number without a minus sign. -/
def unsigned? : List Char → Option Nat
  | '+' :: text => magnitude? text
  | text => magnitude? text

/-- A whole number. -/
def signed? : List Char → Option Int
  | '-' :: text => (magnitude? text).map fun n => -n
  | text => (unsigned? text).map Int.ofNat

/-- Is a number written that need not be whole? A number beyond the format's range is none. -/
def isFloat (text : List Char) : Bool :=
  let special := ["inf", "Inf", "INF"].flatMap fun s => ["." ++ s, "+." ++ s, "-." ++ s]
  if (special ++ [".nan", ".NaN", ".NAN"]).contains (String.ofList text) then true
  else if isPadded text then false
  else
    match text with
    | '+' :: '+' :: _ | '+' :: '-' :: _ => false
    | _ =>
      match Decimal.binary64? text with
      | some (.finite ..) => true
      | _ => false

/-- Is a plain scalar a text, and nothing else? -/
def isText (text : String) : Bool :=
  !isNullText text && (flagOf? text).isNone && (signed? text.toList).isNone && !isFloat text.toList

end Harvest.Yaml

import Harvest.Number.Binary64
import Harvest.Text.Pieces

/-! Decimal text of binary64 numbers: reading rounds to the nearest number, writing gives the fewest
digits that read back. -/

namespace Harvest.Decimal

/-- The value of a decimal digit. -/
def digit? (c : Char) : Option Nat :=
  if '0' ≤ c ∧ c ≤ '9' then some (c.toNat - 48) else none

/-- Is the character one of the ten ASCII digits? -/
def isDigit (c : Char) : Bool :=
  (digit? c).isSome

/-- The number a run of digits stands for, continuing `start`. -/
def ofDigits (start : Nat) (s : List Char) : Nat :=
  s.foldl (fun n c => 10 * n + (digit? c).getD 0) start

/-- An unsigned whole number: an optional plus sign and at least one digit. -/
def nat? (s : List Char) : Option Nat :=
  let digits := match s with
    | '+' :: rest => rest
    | _ => s
  if digits.isEmpty || !digits.all isDigit then none else some (ofDigits 0 digits)

/-- An unsigned whole number below a bound. -/
def natBelow? (bound : Nat) (s : List Char) : Option Nat :=
  (nat? s).filter (· < bound)

/-- Splits off a leading sign. -/
def signed : List Char → Bool × List Char
  | '-' :: rest => (true, rest)
  | '+' :: rest => (false, rest)
  | s => (false, s)

/-- The exponent after a mantissa: nothing, or the letter e with a signed run of digits. -/
def exponent? : List Char → Option Int
  | [] => some 0
  | c :: rest =>
    if c = 'e' ∨ c = 'E' then
      let (negative, digits) := signed rest
      if digits.isEmpty || !digits.all isDigit then none
      else
        let n := ofDigits 0 digits
        some (if negative then -(n : Int) else n)
    else none

/-- A decimal number in text: `inf`, `infinity` and `nan` in any case, or digits with an optional point
and exponent, a sign in front of each. -/
def binary64? (s : List Char) : Option Binary64 :=
  let (negative, body) := signed s
  if Text.sameLetters body "inf".toList || Text.sameLetters body "infinity".toList then
    some (.infinite negative)
  else if Text.sameLetters body "nan".toList then some .nan
  else
    let whole := body.takeWhile isDigit
    let (part, rest) := match body.dropWhile isDigit with
      | '.' :: more => (more.takeWhile isDigit, more.dropWhile isDigit)
      | more => ([], more)
    if whole.isEmpty && part.isEmpty then none
    else (exponent? rest).map fun exponent =>
      Binary64.ofDecimal negative (ofDigits 0 (whole ++ part)) (exponent - part.length)

/-- The decimal digits of a number, the first one not zero unless the number is. -/
def digits (n : Nat) : List Char :=
  Nat.toDigits 10 n

/-- The exponent `k` with `10 ^ k ≤ num / den < 10 ^ (k + 1)`. -/
def magnitude (num den : Nat) : Int :=
  if den ≤ num then ((digits (num / den)).length : Int) - 1
  else
    -- The reciprocal, rounded up, has one digit more than its magnitude.
    -(((digits ((den - 1) / num)).length : Int))

/-- The whole number nearest to `num / den` in units of `10 ^ unit`, together with its neighbour above. -/
def onGrid (num den : Nat) (unit : Int) : Nat :=
  if 0 ≤ unit then num / (den * Nat.pow 10 unit.toNat) else num * Nat.pow 10 (-unit).toNat / den

/-- The fewest digits `d` and the exponent `e` such that `d · 10 ^ e` reads back as the number of `units`;
of two candidates of one length the nearer wins. -/
def shortest (units : Nat) : Nat × Int :=
  let den := Nat.pow 2 1074
  let top := magnitude units den
  let target := Binary64.finite false units
  let candidates := (List.range 17).findSome? fun (places : Nat) =>
    let unit := top - places
    let below := onGrid units den unit
    let reads (d : Nat) : Bool := Binary64.ofDecimal false d unit == target
    match reads below, reads (below + 1) with
    | true, true =>
      -- The nearer of the two: compare twice the value with the sum of both neighbours.
      let lhs := if 0 ≤ unit then 2 * units else 2 * units * Nat.pow 10 (-unit).toNat
      let rhs := if 0 ≤ unit then (2 * below + 1) * Nat.pow 10 unit.toNat * den else (2 * below + 1) * den
      if lhs < rhs || (lhs == rhs && below % 2 == 0) then some (below, unit)
      else some (below + 1, unit)
    | true, false => some (below, unit)
    | false, true => some (below + 1, unit)
    | false, false => none
  candidates.getD (onGrid units den (top - 16), top - 16)

/-- Drops zeros at the end of the digits, raising the exponent. -/
def dropZeros : Nat → Nat × Int → Nat × Int
  | 0, pair => pair
  | fuel + 1, (d, e) => if d % 10 = 0 ∧ d ≠ 0 then dropZeros fuel (d / 10, e + 1) else (d, e)

/-- How a finite number is written: positional notation from 10⁻⁵ up to below 10¹⁶ with at least one digit
after the point, otherwise one digit before the point and an exponent without a plus sign. -/
def render (negative : Bool) (units : Nat) : String :=
  let sign := if negative then "-" else ""
  if units = 0 then sign ++ "0.0"
  else
    let (d, e) := dropZeros 400 (shortest units)
    let ds := digits d
    let point : Int := ds.length + e
    let zeros (n : Int) : List Char := List.replicate n.toNat '0'
    let body : List Char :=
      if 0 ≤ e ∧ point ≤ 16 then ds ++ zeros e ++ ['.', '0']
      else if 0 < point ∧ point ≤ 16 then ds.take point.toNat ++ '.' :: ds.drop point.toNat
      else if -5 < point ∧ point ≤ 0 then '0' :: '.' :: zeros (-point) ++ ds
      else
        let power := (toString (point - 1)).toList
        match ds with
        | [only] => only :: 'e' :: power
        | first :: more => first :: '.' :: more ++ 'e' :: power
        | [] => power
    sign ++ String.ofList body

end Harvest.Decimal

/-! Binary floating-point numbers of 64 bits as exact values: a finite one is a whole number of units of
2⁻¹⁰⁷⁴, so equality and order are those of integers and every operation rounds an exact ratio once. -/

namespace Harvest

/-- A number of the binary64 format. -/
inductive Binary64 where
  /-- A finite number, in units of 2⁻¹⁰⁷⁴; zero has both signs. -/
  | finite (negative : Bool) (units : Nat)
  /-- Beyond all finite numbers. -/
  | infinite (negative : Bool)
  /-- No number; it compares with nothing. -/
  | nan
  deriving DecidableEq, Repr, Inhabited

namespace Binary64

/-- One past the largest finite number, in units of 2⁻¹⁰⁷⁴. -/
def overflow : Nat := Nat.pow 2 2098

/-- The power of two that separates neighbouring numbers of the given magnitude, in units. -/
def spacing (units : Nat) : Nat :=
  Nat.pow 2 (Nat.log2 units - 52)

/-- A ratio rounded to a whole number, a half going to the even neighbour. -/
def roundRatio (num den : Nat) : Nat :=
  let quotient := num / den
  let twice := 2 * (num % den)
  if twice < den then quotient
  else if den < twice then quotient + 1
  else quotient + quotient % 2

/-- The number nearest to a ratio of whole numbers, a half going to the even neighbour. -/
def ofRatio (negative : Bool) (num den : Nat) : Binary64 :=
  let scaled := num * Nat.pow 2 1074
  let step := spacing (scaled / den)
  let units := roundRatio scaled (den * step) * step
  if units < overflow then .finite negative units else .infinite negative

/-- The number nearest to `digits · 10 ^ exponent`. Beyond the format's range the power is not formed. -/
def ofDecimal (negative : Bool) (digits : Nat) (exponent : Int) : Binary64 :=
  if digits = 0 then .finite negative 0
  else if 0 ≤ exponent then
    if 400 < exponent then .infinite negative
    else ofRatio negative (digits * Nat.pow 10 exponent.toNat) 1
  else
    if (Nat.log2 digits : Int) < -exponent - 400 then .finite negative 0
    else ofRatio negative digits (Nat.pow 10 (-exponent).toNat)

/-- The number nearest to an integer. -/
def ofInt (n : Int) : Binary64 :=
  ofRatio (n < 0) n.natAbs 1

/-- The position on the number line, with the infinities past both ends. -/
def key? : Binary64 → Option Int
  | .finite negative units => some (if negative then -(units : Int) else units)
  | .infinite negative => some (if negative then -(overflow : Int) else overflow)
  | .nan => none

/-- The order of two numbers; `nan` has none, and both zeros are equal. -/
def compare? (a b : Binary64) : Option Ordering := do
  let x ← a.key?
  let y ← b.key?
  return compare x y

/-- Equal as numbers. -/
def same (a b : Binary64) : Bool :=
  a.compare? b == some .eq

/-- The number with the given sign. -/
def withSign (negative : Bool) : Binary64 → Binary64
  | .finite _ units => .finite negative units
  | .infinite _ => .infinite negative
  | .nan => .nan

/-- A finite number times a power of ten that is itself rounded first. -/
def timesPowerOfTen (a : Binary64) (power : Nat) : Binary64 :=
  match a, ofDecimal false 1 power with
  | .finite negative units, .finite _ factor => ofRatio negative (units * factor) (Nat.pow 2 2148)
  | other, _ => other

/-- A finite number divided by a power of ten that is itself rounded first. -/
def overPowerOfTen (a : Binary64) (power : Nat) : Binary64 :=
  match a, ofDecimal false 1 power with
  | .finite negative units, .finite _ factor => ofRatio negative units factor
  | other, _ => other

end Binary64

end Harvest

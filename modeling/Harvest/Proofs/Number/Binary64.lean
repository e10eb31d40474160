import Harvest.Number.Binary64
import Mathlib.Algebra.Order.Ring.Int
import Mathlib.Order.Compare

/-! Whole numbers that fit into the mantissa are floating-point numbers themselves: nothing is rounded, and they
compare as integers do. All numbers compare by their places on the number line. -/

namespace Harvest.Binary64

/-- A ratio that is a whole number is not rounded. -/
theorem roundRatio_mul_of_dvd {num den : Nat} (positive : 0 < den) (divides : den ∣ num) :
    roundRatio num den * den = num := by
  -- The remainder is nothing, which is less than half of the divisor.
  simp only [roundRatio, Nat.mod_eq_zero_of_dvd divides, Nat.mul_zero, if_pos positive]
  exact Nat.div_mul_cancel divides

/-- Units of any size are something. -/
theorem unit_pos (exponent : Nat) : 0 < Nat.pow 2 exponent :=
  Nat.two_pow_pos exponent

/-- A number of at most 53 binary digits in units of a power of two. -/
theorem mul_unit_lt {n : Nat} (small : n < 2 ^ 53) (exponent : Nat) :
    n * Nat.pow 2 exponent < Nat.pow 2 (53 + exponent) := by
  have product := Nat.mul_lt_mul_of_pos_right small (unit_pos exponent)
  exact Nat.lt_of_lt_of_eq product (Nat.pow_add 2 53 exponent).symm

/-- A number of at most 53 binary digits is a multiple of the distance between its neighbours. -/
theorem spacing_dvd {n : Nat} (small : n < 2 ^ 53) (exponent : Nat) :
    spacing (n * Nat.pow 2 exponent) ∣ n * Nat.pow 2 exponent := by
  refine Nat.dvd_mul_left_of_dvd (Nat.pow_dvd_pow 2 ?_) n
  by_cases nothing : n * Nat.pow 2 exponent = 0
  · rw [nothing]
    exact Nat.zero_le exponent
  · -- The mantissa has room for all digits, so that the last one is not below the exponent.
    have digits := (Nat.log2_lt nothing).mpr (mul_unit_lt small exponent)
    omega

/-- A number of at most 53 binary digits is below the overflow in units that leave room for it. -/
theorem mul_unit_lt_overflow {n exponent : Nat} (small : n < 2 ^ 53) (room : 53 + exponent ≤ 2098) :
    n * Nat.pow 2 exponent < overflow := by
  -- The bound is a power of two itself, which is not written out for the comparison.
  unfold overflow
  generalize 2098 = top at room ⊢
  exact (mul_unit_lt small exponent).trans_le (Nat.pow_le_pow_right (by decide) room)

/-- A number of at most 53 binary digits is not rounded. -/
theorem roundRatio_spacing {n exponent : Nat} (small : n < 2 ^ 53) :
    roundRatio (n * Nat.pow 2 exponent) (spacing (n * Nat.pow 2 exponent)) *
      spacing (n * Nat.pow 2 exponent) = n * Nat.pow 2 exponent :=
  roundRatio_mul_of_dvd (unit_pos _) (spacing_dvd small exponent)

/-- A whole number of at most 53 binary digits is met exactly. -/
theorem ofRatio_one (negative : Bool) {n : Nat} (small : n < 2 ^ 53) :
    ofRatio negative n 1 = .finite negative (n * Nat.pow 2 1074) := by
  -- The number is a multiple of the spacing around it, in units that leave room for it.
  have room : 53 + 1074 ≤ 2098 := by decide
  unfold ofRatio
  generalize 1074 = exponent at room ⊢
  simp only [Nat.div_one, Nat.one_mul, roundRatio_spacing small, if_pos (mul_unit_lt_overflow small room)]

/-- The sign and the amount of a whole number make up its place on the number line, in any unit. -/
theorem key?_finite (n : Int) (unit : Nat) :
    (finite (n < 0) (n.natAbs * unit)).key? = some (n * (unit : Int)) := by
  -- By the sign of the number.
  by_cases negative : n < 0
  · have amount : (n.natAbs : Int) = -n := by omega
    simp [key?, negative, amount]
  · have amount : (n.natAbs : Int) = n := by omega
    simp [key?, negative, amount]

/-- There is a unit in which whole numbers of at most 53 binary digits stand at their own places on the number
line. -/
theorem key?_ofInt : ∃ unit : Nat, 0 < unit ∧
    ∀ n : Int, n.natAbs < 2 ^ 53 → (ofInt n).key? = some (n * (unit : Int)) := by
  -- An integer within the exact range has an exact form, so that its key is found by its size.
  refine ⟨Nat.pow 2 1074, ?_, fun n small => ?_⟩
  · generalize 1074 = exponent
    exact unit_pos exponent
  · rw [ofInt, ofRatio_one _ small]
    exact key?_finite n _

/-- Whole numbers of at most 53 binary digits compare as integers do. -/
theorem compare?_ofInt {m n : Int} (small : m.natAbs < 2 ^ 53) (small' : n.natAbs < 2 ^ 53) :
    (ofInt m).compare? (ofInt n) = some .lt ↔ m < n := by
  obtain ⟨unit, positive, place⟩ := key?_ofInt
  rw [compare?, place m small, place n small']
  -- Both are measured in the same unit.
  calc (some (compare (m * unit) (n * unit)) = some Ordering.lt)
      ↔ m * unit < n * unit := by rw [Option.some_inj, compare_lt_iff_lt]
    _ ↔ m < n := Int.mul_lt_mul_right (Int.natCast_pos.mpr positive)

/-- Only `nan` has no place on the number line. -/
theorem key?_eq_none_iff {a : Binary64} : a.key? = none ↔ a = .nan := by
  -- By the three kinds of numbers.
  cases a with
  | nan => exact iff_of_true rfl rfl
  | finite negative units => exact iff_of_false nofun nofun
  | infinite negative => exact iff_of_false nofun nofun

/-- Numbers compare as their places on the number line do. -/
theorem compare?_of_key? {a b : Binary64} {m n : Int} (place : a.key? = some m) (place' : b.key? = some n) :
    a.compare? b = some (compare m n) := by
  rw [compare?, place, place']
  rfl

/-- A number is equal to itself, unless it is `nan`. -/
theorem same_self {a : Binary64} (isNumber : a ≠ .nan) : a.same a = true := by
  -- It has a place, which is compared with itself.
  obtain ⟨place, found⟩ := Option.ne_none_iff_exists'.mp (mt key?_eq_none_iff.mp isNumber)
  rw [same, compare?_of_key? found found, compare_eq_iff_eq.mpr rfl]
  rfl

end Harvest.Binary64

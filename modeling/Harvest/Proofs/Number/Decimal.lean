import Harvest.Number.Decimal

/-! The decimal digits of a whole number: they read back as the number, and only zero begins with a zero. -/

namespace Harvest.Decimal

/-- A digit counts for its distance from the zero. -/
theorem digit?_of_isDigit {c : Char} (digit : c.isDigit = true) : digit? c = some (c.toNat - 48) := by
  simp only [Char.isDigit, Bool.and_eq_true, decide_eq_true_eq] at digit
  exact if_pos digit

/-- A decimal digit is a digit. -/
theorem isDigit_of_isDigit {c : Char} (digit : c.isDigit = true) : isDigit c = true := by
  rw [isDigit, digit?_of_isDigit digit, Option.isSome_some]

/-- The digits of a number are decimal digits. -/
theorem isDigit_of_mem_digits {n : Nat} {c : Char} (among : c ∈ digits n) : c.isDigit = true :=
  Nat.isDigit_of_mem_toDigits (by decide) (Nat.le_refl _) among

/-- There is always a digit. -/
theorem digits_ne_nil (n : Nat) : digits n ≠ [] :=
  Nat.toDigits_ne_nil

/-- The digits of a number begin with one. -/
theorem exists_digits_eq (n : Nat) : ∃ first rest, digits n = first :: rest ∧ first.isDigit = true := by
  obtain ⟨first, rest, written⟩ := List.exists_cons_of_ne_nil (digits_ne_nil n)
  exact ⟨first, rest, written, isDigit_of_mem_digits (n := n) (written ▸ List.mem_cons_self)⟩

/-- A run of decimal digits stands for the number that they are the digits of. -/
theorem ofDigits_eq (start : Nat) {run : List Char} (digits : ∀ c ∈ run, c.isDigit = true) :
    ofDigits start run = Nat.ofDigitChars 10 run start := by
  -- By the digits from the left, each of which has the same value here and there.
  induction run generalizing start with
  | nil => rfl
  | cons c rest ih =>
    obtain ⟨digit, others⟩ := List.forall_mem_cons.mp digits
    rw [Nat.ofDigitChars_cons, ← ih _ others, ofDigits, List.foldl_cons, digit?_of_isDigit digit]
    rfl

/-- Every digit more makes the number larger or leaves it zero. -/
theorem le_ofDigits (start : Nat) (run : List Char) : start ≤ ofDigits start run := by
  -- By the digits from the left, each of which makes a number ten times as large at least.
  induction run generalizing start with
  | nil => exact Nat.le_refl _
  | cons c rest ih =>
    have once : start ≤ 10 * start + (digit? c).getD 0 := by omega
    exact Nat.le_trans once (ih _)

/-- The digits of a number read back. -/
theorem ofDigits_digits (n : Nat) : ofDigits 0 (digits n) = n := by
  rw [ofDigits_eq 0 fun c => isDigit_of_mem_digits, digits, Nat.ofDigitChars_ten_toDigits]

/-- Only the digits of zero begin with a zero. -/
theorem head_digits_ne_zero {n : Nat} (positive : 0 < n) : (digits n).head (digits_ne_nil n) ≠ '0' := by
  unfold digits
  induction n using Nat.strongRecOn with
  | ind n ih =>
    by_cases small : n < 10
    · simp only [Nat.toDigits_of_lt_base small, List.head_cons]
      simpa using Nat.ne_of_gt positive
    · -- The first digit is that of the number without its last one.
      have shorter := ih (n / 10) (by omega) (by omega)
      simp only [Nat.toDigits_of_base_le (by decide : 1 < 10) (Nat.le_of_not_lt small)]
      rwa [List.head_append_of_ne_nil]

/-- A number is written by its digits. -/
theorem toList_toString (n : Nat) : (toString n).toList = digits n := by
  rw [Nat.toString_eq_repr, Nat.toList_repr, digits]

/-- A number below zero is written by the digits of its distance from zero, behind a sign. -/
theorem toList_toString_negSucc (n : Nat) : (toString (Int.negSucc n)).toList = '-' :: digits (n + 1) := by
  rw [show toString (Int.negSucc n) = "-" ++ toString (n + 1) from rfl, String.toList_append, toList_toString]
  rfl

/-- A written number is read back. -/
theorem nat?_digits (n : Nat) : nat? (digits n) = some n := by
  -- A written number has digits only, and so no sign in front.
  have all : (digits n).all isDigit = true :=
    List.all_eq_true.mpr fun c among => isDigit_of_isDigit (isDigit_of_mem_digits among)
  unfold nat?
  split
  · rename_i rest written
    exact absurd (isDigit_of_mem_digits (c := '+') (written ▸ List.mem_cons_self)) (by decide)
  · simp [all, digits_ne_nil, ofDigits_digits]

/-- A written number below the bound is read back. -/
theorem natBelow?_toString {bound n : Nat} (small : n < bound) : natBelow? bound (toString n).toList = some n := by
  rw [natBelow?, toList_toString, nat?_digits, Option.filter_some, if_pos (by simpa using small)]

end Harvest.Decimal

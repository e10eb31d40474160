/-! Machine words: whole numbers below a fixed bound. -/

namespace Harvest.Word

/-- One past the largest word of 64 bits. -/
def bound : Nat := 0x10000000000000000

/-- One past the largest word of 32 bits. -/
def halfBound : Nat := 0x100000000

/-- One past the largest word of 16 bits. -/
def quarterBound : Nat := 0x10000

/-- The words of 64 bits from here on stand for negative numbers where words have signs. -/
def signBound : Nat := 0x8000000000000000

/-- A word of 64 bits read as a signed number. -/
def signed (n : Nat) : Int :=
  if n < signBound then n else (n : Int) - (bound : Int)

/-- Words below the sign bound stand for themselves. -/
theorem signed_of_lt {n : Nat} (small : n < signBound) : signed n = n :=
  if_pos small

/-- Words from the sign bound on stand for negative numbers. -/
theorem signed_of_le {n : Nat} (large : signBound ≤ n) : signed n = n - bound :=
  if_neg (Nat.not_lt.mpr large)

end Harvest.Word

/-! Labels of host names in the letters that the name system carries: the other characters of a label are
written after its ASCII characters as a run of numbers with a sliding base. -/

namespace Harvest.Punycode

/-- The written form of a digit: the letters, then the ten figures. -/
def digitChar (digit : Nat) : Char :=
  if digit < 26 then Char.ofNat (0x61 + digit) else Char.ofNat (0x30 + digit - 26)

/-- The least digit at a place that does not end its number. -/
def threshold (place bias : Nat) : Nat :=
  if place ≤ bias then 1 else if bias + 26 ≤ place then 26 else place - bias

/-- Every threshold leaves room for a digit below it. -/
theorem threshold_pos (place bias : Nat) : 1 ≤ threshold place bias := by
  -- The third case applies only above the bias.
  unfold threshold
  split
  · omega
  · split <;> omega

/-- Divides by 35 until the rest is small, adding 36 places each time. -/
def shrink (delta places : Nat) : Nat × Nat :=
  if 455 < delta then shrink (delta / 35) (places + 36) else (delta, places)
termination_by delta
decreasing_by exact Nat.div_lt_self (by omega) (by omega)

/-- The bias after a number, so that numbers of its size become short. -/
def adapt (delta count : Nat) (first : Bool) : Nat :=
  let damped := if first then delta / 700 else delta / 2
  let (rest, places) := shrink (damped + damped / count) 0
  places + 36 * rest / (rest + 38)

/-- The digits of a number, lowest place first. -/
def numberChars (bias place number : Nat) : List Char :=
  let t := threshold place bias
  if number < t then [digitChar number]
  else digitChar (t + (number - t) % (36 - t)) :: numberChars bias (place + 36) ((number - t) / (36 - t))
termination_by number
decreasing_by
  have positive := threshold_pos place bias
  calc (number - threshold place bias) / (36 - threshold place bias)
      ≤ number - threshold place bias := Nat.div_le_self _ _
    _ < number := by omega

/-- What the encoder carries from character to character. -/
structure Progress where
  /-- The numbers written so far. -/
  out : List Char
  /-- The distance travelled since the last number. -/
  delta : Nat
  bias : Nat
  /-- The characters dealt with. -/
  done : Nat

/-- Passes over one character while those with the code point `point` are being written; `plain` is the
number of ASCII characters. -/
def pass (plain point : Nat) (progress : Progress) (c : Char) : Progress :=
  if c.toNat < point then { progress with delta := progress.delta + 1 }
  else if c.toNat = point then
    { out := progress.out ++ numberChars progress.bias 36 progress.delta
      delta := 0
      bias := adapt progress.delta (progress.done + 1) (progress.done == plain)
      done := progress.done + 1 }
  else progress

/-- Writes the characters of each code point of an ascending list; all below `next` are dealt with. -/
def writePoints (label : List Char) (plain : Nat) : List Nat → Nat → Progress → Progress
  | [], _, progress => progress
  | point :: rest, next, progress =>
    let reached := { progress with delta := progress.delta + (point - next) * (progress.done + 1) }
    let passed := label.foldl (pass plain point) reached
    writePoints label plain rest (point + 1) { passed with delta := passed.delta + 1 }

/-- Inserts a number into an ascending list, unless it is there. -/
def insertAscending (n : Nat) : List Nat → List Nat
  | [] => [n]
  | m :: rest => if n < m then n :: m :: rest else if n = m then m :: rest else m :: insertAscending n rest

/-- Is the character one of ASCII? -/
def isPlain (c : Char) : Bool :=
  c.toNat < 0x80

/-- The encoded label: its ASCII characters, a hyphen if there are any, and the numbers for the others. -/
def encode (label : List Char) : List Char :=
  let plain := label.filter isPlain
  let points := (label.filter fun c => !isPlain c).foldr (fun c points => insertAscending c.toNat points) []
  let progress := writePoints label plain.length points 0x80 ⟨[], 0, 72, plain.length⟩
  plain ++ (if plain.isEmpty then [] else ['-']) ++ progress.out

end Harvest.Punycode

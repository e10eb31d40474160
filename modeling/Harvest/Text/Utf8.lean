import Harvest.Text.Pieces

/-! Bytes and characters in UTF-8. Bytes that are none read as replacement characters, one for each longest
beginning of a character. -/

namespace Harvest.Text

/-- Does the byte continue a character? -/
def continues (byte : Nat) : Bool :=
  0x80 ≤ byte && byte ≤ 0xBF

/-- The number of bytes after the first one, the bits that the first one holds, and the range that the
second one must lie in. -/
def leadOf? (byte : Nat) : Option (Nat × Nat × Nat × Nat) :=
  if 0xC2 ≤ byte ∧ byte ≤ 0xDF then some (1, byte - 0xC0, 0x80, 0xBF)
  else if byte = 0xE0 then some (2, 0, 0xA0, 0xBF)
  else if byte = 0xED then some (2, 0xD, 0x80, 0x9F)
  else if 0xE1 ≤ byte ∧ byte ≤ 0xEF then some (2, byte - 0xE0, 0x80, 0xBF)
  else if byte = 0xF0 then some (3, 0, 0x90, 0xBF)
  else if byte = 0xF4 then some (3, 4, 0x80, 0x8F)
  else if 0xF1 ≤ byte ∧ byte ≤ 0xF3 then some (3, byte - 0xF0, 0x80, 0xBF)
  else none

/-- The replacement character. -/
def replacement : Char := Char.ofNat 0xFFFD

/-- The worker of `ofBytes`: `missing` bytes of a character with the bits `bits` are still to come, the next
one between `low` and `high`. A character that breaks off gives `none`. -/
def ofBytesGo : Nat → Nat → Nat → Nat → List Nat → List (Option Char)
  | 0, _, _, _, [] => []
  | _ + 1, _, _, _, [] => [none]
  | 0, _, _, _, byte :: rest =>
    if byte < 0x80 then some (Char.ofNat byte) :: ofBytesGo 0 0 0 0 rest
    else match leadOf? byte with
      | some (missing, bits, low, high) => ofBytesGo missing bits low high rest
      | none => none :: ofBytesGo 0 0 0 0 rest
  | missing + 1, bits, low, high, byte :: rest =>
    if low ≤ byte ∧ byte ≤ high then
      let bits := 64 * bits + byte % 64
      match missing with
      | 0 => some (Char.ofNat bits) :: ofBytesGo 0 0 0 0 rest
      | more + 1 => ofBytesGo (more + 1) bits 0x80 0xBF rest
    -- The byte does not belong to the character that breaks off here.
    else if byte < 0x80 then none :: some (Char.ofNat byte) :: ofBytesGo 0 0 0 0 rest
    else match leadOf? byte with
      | some (missing, bits, low, high) => none :: ofBytesGo missing bits low high rest
      | none => none :: none :: ofBytesGo 0 0 0 0 rest

/-- The characters of bytes, with replacement characters for those that are none. -/
def ofBytes (bytes : List Nat) : List Char :=
  (ofBytesGo 0 0 0 0 bytes).map (·.getD replacement)

/-- The characters of bytes, if all of them are characters. -/
def ofBytes? (bytes : List Nat) : Option (List Char) :=
  (ofBytesGo 0 0 0 0 bytes).mapM id

/-- The value of a digit in base 16. -/
def hexDigit? (byte : Nat) : Option Nat :=
  if 48 ≤ byte ∧ byte ≤ 57 then some (byte - 48)
  else if 97 ≤ byte ∧ byte ≤ 102 then some (byte - 87)
  else if 65 ≤ byte ∧ byte ≤ 70 then some (byte - 55)
  else none

/-- Replaces every percent sign with two digits in base 16 by the byte they stand for. -/
def percentDecode : List Nat → List Nat
  | 0x25 :: high :: low :: rest =>
    match hexDigit? high, hexDigit? low with
    | some h, some l => (16 * h + l) :: percentDecode rest
    | _, _ => 0x25 :: percentDecode (high :: low :: rest)
  | byte :: rest => byte :: percentDecode rest
  | [] => []

end Harvest.Text

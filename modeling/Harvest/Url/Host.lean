import Harvest.Number.Decimal
import Harvest.Text.Utf8
import Harvest.Url.Punycode

/-! Hosts of locators: names in their ASCII form, and addresses of both versions of the internet protocol. -/

namespace Harvest

/-- Who is addressed. -/
inductive Host where
  | domain (name : String)
  /-- Four bytes as one number. -/
  | v4 (address : Nat)
  /-- Eight pieces of 16 bits. -/
  | v6 (pieces : List Nat)
  deriving DecidableEq, Repr, Inhabited

namespace Host

/-- The digits of a number in base 16, in lower case. -/
def hexText (n : Nat) : String :=
  String.ofList (Nat.toDigits 16 n)

/-- The value of a digit in a base up to 16. -/
def digitIn? (base : Nat) (c : Char) : Option Nat :=
  let value := match c.toNat with
    | n => if 48 ≤ n ∧ n ≤ 57 then n - 48
      else if 97 ≤ n ∧ n ≤ 102 then n - 87
      else if 65 ≤ n ∧ n ≤ 70 then n - 55
      else base
  if value < base then some value else none

/-- The number that digits of a base stand for. -/
def numberIn? (base : Nat) (digits : List Char) : Option Nat :=
  digits.foldlM (fun n c => (digitIn? base c).map (base * n + ·)) 0

/-- A part of an address in the base that its beginning tells: 16 after `0x`, 8 after another zero. -/
def v4Part? : List Char → Option Nat
  | [] => none
  | ['0'] => some 0
  | '0' :: 'x' :: digits => numberIn? 16 digits
  | '0' :: 'X' :: digits => numberIn? 16 digits
  | '0' :: digits => numberIn? 8 digits
  | digits => numberIn? 10 digits

/-- Is a name to be read as an address? Its last part, a final point aside, decides. -/
def endsInNumber (name : List Char) : Bool :=
  let parts := (Text.splitAtChar '.' name).reverse
  let decides (part : List Char) : Bool :=
    (!part.isEmpty && part.all Decimal.isDigit) || (v4Part? part).isSome
  match parts with
  | [] :: part :: _ => decides part
  | part :: _ => decides part
  | [] => false

/-- The address that up to four numbers stand for: the last one fills all bytes that the others leave. -/
def v4OfNumbers? (numbers : List Nat) : Option Host :=
  match numbers.reverse with
  | [] => none
  | last :: others =>
    if 3 < others.length ∨ others.any (255 < ·) ∨ Nat.pow 256 (4 - others.length) ≤ last then none
    else
      let high := others.reverse.foldl (fun n part => 256 * n + part) 0
      some (.v4 (high * Nat.pow 256 (4 - others.length) + last))

/-- Reads an address of four bytes. -/
def v4? (name : List Char) : Option Host := do
  let parts := Text.splitAtChar '.' name
  let parts := if parts.length > 1 && parts.getLast? = some [] then parts.dropLast else parts
  if parts.length > 4 then none
  else v4OfNumbers? (← parts.mapM v4Part?)

/-- The four bytes at the end of an address of eight pieces, as two pieces. -/
def v4Tail? (s : List Char) : Option (List Nat) := do
  let parts := Text.splitAtChar '.' s
  let plain (part : List Char) : Bool :=
    !part.isEmpty && part.length ≤ 3 && part.all Decimal.isDigit &&
      (part.length = 1 || part.head? ≠ some '0')
  if !parts.all plain then none
  else match parts.map (Decimal.ofDigits 0) with
    | [a, b, c, d] => if [a, b, c, d].any (255 < ·) then none else some [256 * a + b, 256 * c + d]
    | _ => none

/-- The pieces between colons; the last one may be an address of four bytes. -/
def v6Pieces? : List (List Char) → Option (List Nat)
  | [] => some []
  | [last] =>
    if last.contains '.' then v4Tail? last
    else if last.isEmpty || last.length > 4 then none
    else (numberIn? 16 last).map ([·])
  | piece :: rest =>
    if piece.isEmpty || piece.length > 4 then none
    else do
      let value ← numberIn? 16 piece
      let others ← v6Pieces? rest
      return value :: others

/-- The pieces of a side of the double colon. -/
def v6Side? (s : List Char) : Option (List Nat) :=
  if s.isEmpty then some [] else v6Pieces? (Text.splitAtChar ':' s)

/-- Cuts at the first double colon. -/
def cutAtDoubleColon? : List Char → Option (List Char × List Char)
  | ':' :: ':' :: rest => some ([], rest)
  | c :: rest => (cutAtDoubleColon? rest).map fun (left, right) => (c :: left, right)
  | [] => none

/-- Reads an address of eight pieces; a double colon stands for one zero or more. -/
def v6? (s : List Char) : Option Host :=
  match cutAtDoubleColon? s with
  | none => do
    let pieces ← v6Side? s
    if pieces.length = 8 then some (.v6 pieces) else none
  | some (left, right) => do
    if left.contains '.' then none
    else
      let left ← v6Side? left
      let right ← v6Side? right
      if left.length + right.length > 7 then none
      else some (.v6 (left ++ List.replicate (8 - left.length - right.length) 0 ++ right))

/-- The length of the run of zeros that a list begins with. -/
def zeroRun (pieces : List Nat) : Nat :=
  (pieces.takeWhile (· == 0)).length

/-- The start and length of the longest run of zeros, the first of those of one length; a single zero is
no run. -/
def longestZeros (pieces : List Nat) : Option (Nat × Nat) :=
  let runs := (List.range pieces.length).map fun start => (start, zeroRun (pieces.drop start))
  let best := runs.foldl (fun best run => if best.2 < run.2 then run else best) (0, 1)
  if 1 < best.2 then some best else none

/-- The written form of eight pieces: the longest run of zeros becomes a double colon. -/
def v6Text (pieces : List Nat) : String :=
  let side (part : List Nat) : String := Text.join ":" (part.map hexText)
  match longestZeros pieces with
  | none => side pieces
  | some (start, length) => side (pieces.take start) ++ "::" ++ side (pieces.drop (start + length))

/-- The written form of a host. -/
def text : Host → String
  | domain name => name
  | v4 address =>
    Text.join "." ([16777216, 65536, 256, 1].map fun unit => toString (address / unit % 256))
  | v6 pieces => "[" ++ v6Text pieces ++ "]"

/-- The character in the form that names are compared in: small letters, no full-width forms. Characters
that leave no trace in a name give none. This is a part of the mapping for names only: the small letters of the
Latin, Greek and Cyrillic alphabets, and none of the signs that stand for others, such as circled digits (U+2460) or
the Kelvin sign (U+212A). Letters with marks of their own behind them are not put together. -/
def foldChar (c : Char) : List Char :=
  let n := c.toNat
  if n < 0x80 then [c.toLower]
  else if n = 0xAD ∨ n = 0x200B ∨ n = 0x2060 ∨ n = 0xFEFF ∨ (0xFE00 ≤ n ∧ n ≤ 0xFE0F) then []
  else if n = 0x3002 ∨ n = 0xFF61 then ['.']
  else if 0xFF01 ≤ n ∧ n ≤ 0xFF5E then [(Char.ofNat (n - 0xFEE0)).toLower]
  else if (0xC0 ≤ n ∧ n ≤ 0xDE ∧ n ≠ 0xD7) ∨ (0x391 ≤ n ∧ n ≤ 0x3A9) ∨ (0x410 ≤ n ∧ n ≤ 0x42F) then
    [Char.ofNat (n + 32)]
  else if 0x400 ≤ n ∧ n ≤ 0x40F then [Char.ofNat (n + 80)]
  else if (0x100 ≤ n ∧ n ≤ 0x137 ∨ 0x14A ≤ n ∧ n ≤ 0x177) ∧ n % 2 = 0 then [Char.ofNat (n + 1)]
  else if (0x139 ≤ n ∧ n ≤ 0x148 ∨ 0x179 ≤ n ∧ n ≤ 0x17E) ∧ n % 2 = 1 then [Char.ofNat (n + 1)]
  else [c]

/-- A label in ASCII. -/
def labelText (label : List Char) : List Char :=
  if label.all Punycode.isPlain then label else "xn--".toList ++ Punycode.encode label

/-- A name in ASCII, label by label. -/
def asciiName (name : List Char) : List Char :=
  List.intercalate ['.'] ((Text.splitAtChar '.' (name.flatMap foldChar)).map labelText)

/-- May the character not stand in a name? -/
def isBarred (c : Char) : Bool :=
  c.toNat ≤ 0x20 || c.toNat = 0x7F || "#%/:<>?@[\\]^|".toList.contains c

/-- Reads the text between brackets as an address, if there are brackets around the text. -/
def bracketed? (s : List Char) : Option (Option Host) :=
  match s with
  | '[' :: rest => some (if rest.getLast? = some ']' then v6? rest.dropLast else none)
  | _ => none

/-- Reads the host of one of the schemes whose hosts are names of the name system. -/
def parse? (s : List Char) : Option Host :=
  match bracketed? s with
  | some found => found
  | none => do
    let name := asciiName (← Text.ofBytes? (Text.percentDecode (Text.bytes s)))
    if name.isEmpty || name.any isBarred then none
    else if endsInNumber name then v4? name
    else some (.domain (String.ofList name))

/-- May the character not stand in a host that is no name of the name system? -/
def isBarredOpaque (c : Char) : Bool :=
  "\x00\t\n\r #/:<>?@[\\]^|".toList.contains c

/-- Reads the host of any other scheme; it stays as it is. -/
def parseOpaque? (s : List Char) : Option Host :=
  match bracketed? s with
  | some found => found
  | none => if s.any isBarredOpaque then none else some (.domain (String.ofList s))

end Host

end Harvest

import Harvest.Markup.ReferenceTable
import Harvest.Json.Reader

/-! Character references in markup: the text that follows an ampersand, decoded or left as it is. -/

namespace Harvest.Markup

/-- Replaces what cannot be a character: zero, surrogates and numbers past the last code point. -/
def replacementChar : Char := Char.ofNat 0xFFFD

/-- What the numbers from 0x80 to 0x9F stand for; zero marks the five that stand for themselves. -/
def windowsCodePoints : List Nat :=
  [0x20AC, 0, 0x201A, 0x0192, 0x201E, 0x2026, 0x2020, 0x2021, 0x02C6, 0x2030, 0x0160, 0x2039, 0x0152, 0,
   0x017D, 0, 0, 0x2018, 0x2019, 0x201C, 0x201D, 0x2022, 0x2013, 0x2014, 0x02DC, 0x2122, 0x0161, 0x203A,
   0x0153, 0, 0x017E, 0x0178]

/-- The character that a numeric reference stands for. -/
def numberedChar (n : Nat) : Char :=
  if n = 0 ∨ 0x10FFFF < n ∨ (0xD800 ≤ n ∧ n ≤ 0xDFFF) then replacementChar
  else if 0x80 ≤ n ∧ n ≤ 0x9F then
    match windowsCodePoints[n - 0x80]? with
    | some 0 => Char.ofNat n
    | some other => Char.ofNat other
    | none => Char.ofNat n
  else Char.ofNat n

/-- The rest after an optional semicolon. -/
def afterSemicolon : List Char → List Char
  | ';' :: rest => rest
  | rest => rest

/-- The text of a numeric reference, read after the number sign, and the rest. -/
def numericReference? (s : List Char) : Option (List Char × List Char) :=
  let hexadecimal := match s with
    | 'x' :: rest => some rest
    | 'X' :: rest => some rest
    | _ => none
  match hexadecimal with
  | some s =>
    let run := s.takeWhile fun c => (Json.hexDigit? c).isSome
    if run.isEmpty then none
    else
      let n := run.foldl (fun n c => 16 * n + (Json.hexDigit? c).getD 0) 0
      some ([numberedChar n], afterSemicolon (s.drop run.length))
  | none =>
    let run := s.takeWhile Decimal.isDigit
    if run.isEmpty then none
    else some ([numberedChar (Decimal.ofDigits 0 run)], afterSemicolon (s.drop run.length))

/-- The longest name of the table among the first `n` characters of a text, with its length. -/
def longestName? (s : List Char) : Nat → Option (Nat × List Char)
  | 0 => none
  | n + 1 =>
    match referenceTable[String.ofList (s.take (n + 1))]? with
    | some text => some (n + 1, text)
    | none => longestName? s n

/-- The text of a named reference and the rest. Inside an attribute, a name without its semicolon is no
reference when an equals sign, a letter or a digit follows. -/
def namedReference? (inAttribute : Bool) (s : List Char) : Option (List Char × List Char) := do
  let run := ((s.take 32).takeWhile Char.isAlphanum).length
  let longest := if s[run]? = some ';' then run + 1 else run
  let (length, text) ← longestName? s longest
  let rest := s.drop length
  let closed := s[length - 1]? = some ';'
  let joined := match rest with
    | c :: _ => c = '=' || c.isAlphanum
    | [] => false
  if inAttribute && !closed && joined then none else return (text, rest)

/-- What an ampersand and the text after it stand for, and the rest. -/
def reference (inAttribute : Bool) (s : List Char) : List Char × List Char :=
  let decoded := match s with
    | '#' :: rest => numericReference? rest
    | c :: _ => if c.isAlphanum then namedReference? inAttribute s else none
    | [] => none
  decoded.getD (['&'], s)

/-- Decodes every reference in a text. -/
def decodeReferences (inAttribute : Bool) : Nat → List Char → List Char
  | 0, s => s
  | _ + 1, [] => []
  | fuel + 1, c :: s =>
    if c = '&' then
      let (text, rest) := reference inAttribute s
      text ++ decodeReferences inAttribute fuel rest
    else c :: decodeReferences inAttribute fuel s

end Harvest.Markup

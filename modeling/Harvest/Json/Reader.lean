import Harvest.Json.Basic
import Harvest.Number.Decimal
import Harvest.Number.Word

/-! Reading document text: whatever is no document, or is nested too deep, has no value. Every member of an
object is kept, repeated names included. -/

namespace Harvest.Json

/-- The number of brackets that may be open at one time is below this. -/
def nestingLimit : Nat := 128

/-- Drops the four blanks that may stand between the parts of a document. -/
def skipBlanks (s : List Char) : List Char :=
  s.dropWhile fun c => c = ' ' ∨ c = '\t' ∨ c = '\n' ∨ c = '\r'

/-- The value of a hexadecimal digit. -/
def hexDigit? (c : Char) : Option Nat :=
  if '0' ≤ c ∧ c ≤ '9' then some (c.toNat - 48)
  else if 'a' ≤ c ∧ c ≤ 'f' then some (c.toNat - 87)
  else if 'A' ≤ c ∧ c ≤ 'F' then some (c.toNat - 55)
  else none

/-- The number four hexadecimal digits stand for. -/
def hexQuad? : List Char → Option (Nat × List Char)
  | a :: b :: c :: d :: rest => do
    let a ← hexDigit? a
    let b ← hexDigit? b
    let c ← hexDigit? c
    let d ← hexDigit? d
    return (((a * 16 + b) * 16 + c) * 16 + d, rest)
  | _ => none

/-- The character that a one-letter escape stands for. -/
def plainEscape? : Char → Option Char
  | '"' => some '"'
  | '\\' => some '\\'
  | '/' => some '/'
  | 'b' => some '\x08'
  | 'f' => some '\x0c'
  | 'n' => some '\n'
  | 'r' => some '\r'
  | 't' => some '\t'
  | _ => none

/-- The character after a backslash and the letter u; a high surrogate needs its low half. -/
def unicodeEscape? (s : List Char) : Option (Char × List Char) := do
  let (unit, rest) ← hexQuad? s
  if 0xDC00 ≤ unit ∧ unit ≤ 0xDFFF then none
  else if 0xD800 ≤ unit ∧ unit ≤ 0xDBFF then
    match rest with
    | '\\' :: 'u' :: more =>
      let (low, rest) ← hexQuad? more
      if 0xDC00 ≤ low ∧ low ≤ 0xDFFF then
        return (Char.ofNat (0x10000 + (unit - 0xD800) * 0x400 + (low - 0xDC00)), rest)
      else none
    | _ => none
  else return (Char.ofNat unit, rest)

/-- The text up to the closing quote and what follows it; `done` is the text so far, reversed. -/
def stringBody? : Nat → List Char → List Char → Option (String × List Char)
  | 0, _, _ => none
  | fuel + 1, done, s =>
    match s with
    | [] => none
    | '"' :: rest => some (String.ofList done.reverse, rest)
    | '\\' :: 'u' :: rest => do
      let (c, rest) ← unicodeEscape? rest
      stringBody? fuel (c :: done) rest
    | '\\' :: c :: rest => do
      let c ← plainEscape? c
      stringBody? fuel (c :: done) rest
    | c :: rest => if c.toNat < 0x20 then none else stringBody? fuel (c :: done) rest

/-- Reads digits into a significand as long as it stays below the limit: the significand, the number of
digits read, and the rest. -/
def significand (start : Nat) : List Char → Nat × Nat × List Char
  | [] => (start, 0, [])
  | c :: rest =>
    match Decimal.digit? c with
    | none => (start, 0, c :: rest)
    | some d =>
      let next := start * 10 + d
      if Word.bound ≤ next then (start, 0, c :: rest)
      else
        let (total, count, rest) := significand next rest
        (total, count + 1, rest)

/-- A significand times a power of ten, each step rounded to the nearest number; a result beyond the finite
numbers is none. -/
def scale? : Nat → Binary64 → Int → Option Binary64
  | 0, x, _ => some x
  | fuel + 1, x, e =>
    if e.natAbs ≤ 308 then
      if 0 ≤ e then
        match x.timesPowerOfTen e.toNat with
        | .infinite _ => none
        | y => some y
      else some (x.overPowerOfTen e.natAbs)
    else if x == .finite false 0 then some x
    else if 0 ≤ e then none
    else scale? fuel (x.overPowerOfTen 308) (e + 308)

/-- The number with the given significand and exponent. -/
def floatOfParts? (negative : Bool) (digits : Nat) (e : Int) : Option Json :=
  (scale? 5 (Binary64.ofInt digits) e).map fun x => float (x.withSign negative)

/-- The exponent part of a number, its letter already read, for a significand scaled by `10 ^ start`. -/
def exponentPart? (negative : Bool) (digits : Nat) (start : Int) (s : List Char) :
    Option (Json × List Char) := do
  let (down, s) := Decimal.signed s
  let run := s.takeWhile Decimal.isDigit
  let rest := s.dropWhile Decimal.isDigit
  if run.isEmpty then none
  else
    let e := Decimal.ofDigits 0 run
    if 0x80000000 ≤ e then
      -- Such an exponent is not formed: only zero or a vanishing number has a value.
      if digits ≠ 0 ∧ !down then none else return (float (.finite negative 0), rest)
    else
      let value ← floatOfParts? negative digits (if down then start - e else start + e)
      return (value, rest)

/-- What may follow a significand that counts in units of `10 ^ start`: an exponent or nothing. -/
def afterDigits? (negative : Bool) (digits : Nat) (start : Int) : List Char → Option (Json × List Char)
  | 'e' :: rest => exponentPart? negative digits start rest
  | 'E' :: rest => exponentPart? negative digits start rest
  | rest => (floatOfParts? negative digits start).map (·, rest)

/-- The part after the point. Digits that no longer fit the significand count for nothing. -/
def fraction? (negative : Bool) (digits : Nat) (start : Int) (s : List Char) :
    Option (Json × List Char) :=
  match s with
  | c :: _ =>
    if Decimal.isDigit c then
      let (digits, count, rest) := significand digits s
      afterDigits? negative digits (start - count) (rest.dropWhile Decimal.isDigit)
    else none
  | [] => none

/-- A number, its sign already read. A whole number within range stays one; minus zero does not. -/
def number? (negative : Bool) (s : List Char) : Option (Json × List Char) :=
  match s with
  | [] => none
  | first :: more =>
    if !Decimal.isDigit first then none
    else
      let (digits, _, rest) := if first = '0' then (0, 1, more) else significand 0 s
      -- Digits beyond the significand each raise the exponent by one.
      let surplus := (rest.takeWhile Decimal.isDigit).length
      if first = '0' ∧ 0 < surplus then none
      else
        match rest.dropWhile Decimal.isDigit with
        | '.' :: rest => fraction? negative digits surplus rest
        | 'e' :: rest => exponentPart? negative digits surplus rest
        | 'E' :: rest => exponentPart? negative digits surplus rest
        | rest =>
          if 0 < surplus then (floatOfParts? negative digits surplus).map (·, rest)
          else if !negative then some (int digits, rest)
          else if digits = 0 ∨ Word.signBound < digits then (floatOfParts? true digits 0).map (·, rest)
          else some (int (-(digits : Int)), rest)

mutual

/-- Reads one value; `depth` more brackets may be opened. -/
def value? : Nat → Nat → List Char → Option (Json × List Char)
  | 0, _, _ => none
  | fuel + 1, depth, s =>
    match skipBlanks s with
    | 'n' :: 'u' :: 'l' :: 'l' :: rest => some (null, rest)
    | 't' :: 'r' :: 'u' :: 'e' :: rest => some (bool true, rest)
    | 'f' :: 'a' :: 'l' :: 's' :: 'e' :: rest => some (bool false, rest)
    | '"' :: rest => (stringBody? (rest.length + 1) [] rest).map fun (text, rest) => (string text, rest)
    | '-' :: rest => number? true rest
    | '[' :: rest =>
      if depth = 0 then none
      else match skipBlanks rest with
        | ']' :: rest => some (array [], rest)
        | _ => (items? fuel (depth - 1) [] rest).map fun (items, rest) => (array items, rest)
    | '\x7b' :: rest =>
      if depth = 0 then none
      else match skipBlanks rest with
        | '\x7d' :: rest => some (object [], rest)
        | _ => (members? fuel (depth - 1) [] rest).map fun (members, rest) => (object members, rest)
    | rest => number? false rest

/-- Reads items up to the closing bracket; `done` are the items so far, reversed. -/
def items? : Nat → Nat → List Json → List Char → Option (List Json × List Char)
  | 0, _, _, _ => none
  | fuel + 1, depth, done, s => do
    let (item, rest) ← value? fuel depth s
    match skipBlanks rest with
    | ',' :: rest => items? fuel depth (item :: done) rest
    | ']' :: rest => some ((item :: done).reverse, rest)
    | _ => none

/-- Reads members up to the closing brace; `done` are the members so far, reversed. -/
def members? : Nat → Nat → List (String × Json) → List Char → Option (List (String × Json) × List Char)
  | 0, _, _, _ => none
  | fuel + 1, depth, done, s =>
    match skipBlanks s with
    | '"' :: rest => do
      let (name, rest) ← stringBody? (rest.length + 1) [] rest
      match skipBlanks rest with
      | ':' :: rest =>
        let (item, rest) ← value? fuel depth rest
        match skipBlanks rest with
        | ',' :: rest => members? fuel depth ((name, item) :: done) rest
        | '\x7d' :: rest => some (((name, item) :: done).reverse, rest)
        | _ => none
      | _ => none
    | _ => none

end

/-- Reads the value that a text begins with, and gives the rest of the text. -/
def readFirst? (s : List Char) : Option (Json × List Char) :=
  value? (2 * s.length + 2) (nestingLimit - 1) s

/-- Reads a text that holds one value and nothing else, repeated member names kept. -/
def readAll? (s : List Char) : Option Json :=
  match readFirst? s with
  | some (value, rest) => if (skipBlanks rest).isEmpty then some value else none
  | none => none

/-- The value of a text, with one member of each name in every object. -/
def parse? (s : String) : Option Json :=
  (readAll? s.toList).map normalize

end Harvest.Json

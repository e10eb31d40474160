import Harvest.Json.Basic
import Harvest.Number.Decimal

/-! The compact text of a document value: no blanks, members in their order. -/

namespace Harvest.Json

/-- The two hexadecimal digits of a number below 256, in lower case. -/
def hexPair (n : Nat) : List Char :=
  [Nat.digitChar (n / 16 % 16), Nat.digitChar (n % 16)]

/-- A character inside quotes: quotes, backslashes and control characters are escaped, all others stand
for themselves. -/
def escapeChar (c : Char) : List Char :=
  if c = '"' then ['\\', '"']
  else if c = '\\' then ['\\', '\\']
  else if c = '\x08' then ['\\', 'b']
  else if c = '\x0c' then ['\\', 'f']
  else if c = '\n' then ['\\', 'n']
  else if c = '\r' then ['\\', 'r']
  else if c = '\t' then ['\\', 't']
  else if c.toNat < 0x20 then '\\' :: 'u' :: '0' :: '0' :: hexPair c.toNat
  else [c]

/-- A string in quotes. -/
def quote (s : String) : String :=
  String.ofList ('"' :: s.toList.flatMap escapeChar ++ ['"'])

mutual

/-- The compact text of a value. Numbers beyond the format's range have no text of their own and read null. -/
def render : Json → String
  | null => "null"
  | bool true => "true"
  | bool false => "false"
  | int n => toString n
  | float (.finite negative units) => Decimal.render negative units
  | float _ => "null"
  | string s => quote s
  | array items => "[" ++ renderItems items ++ "]"
  | object members => "\x7b" ++ renderMembers members ++ "\x7d"

/-- The texts of the items with commas between them. -/
def renderItems : List Json → String
  | [] => ""
  | [item] => render item
  | item :: rest => render item ++ "," ++ renderItems rest

/-- The texts of the members with commas between them. -/
def renderMembers : List (String × Json) → String
  | [] => ""
  | [(name, value)] => quote name ++ ":" ++ render value
  | (name, value) :: rest => quote name ++ ":" ++ render value ++ "," ++ renderMembers rest

end

end Harvest.Json

import Harvest.Equation.Basic
import Harvest.Text.Pieces

/-! Reading a comparison: an operand, a comparator and an operand, with white space allowed around each. -/

namespace Harvest.Equation

/-- Why a text is no comparison. -/
inductive Error where
  /-- No token starts after the one that ends at this byte. -/
  | unexpectedInput (offset : Nat)
  /-- There are not three tokens. -/
  | tokenCount (found : Nat)
  | unknownComparator (token : String)
  | unterminatedLiteral (token : String)
  | unknownOperand (token : String)
  deriving DecidableEq, Repr, Inhabited

/-- The wording of a cause. -/
def Error.message : Error → String
  | unexpectedInput offset => "unexpected input at offset " ++ toString offset
  | tokenCount found =>
    "expected '<operand> <op> <operand>', found " ++ toString found ++ " tokens"
  | unknownComparator token => "unknown comparison operator '" ++ token ++ "'"
  | unterminatedLiteral token => "unterminated string literal " ++ token
  | unknownOperand token => "unknown operand '" ++ token ++ "'"

/-- The number of characters up to and with the closing quote; a backslash takes the next character along,
which must not be a line feed. -/
def quotedLength? (quote : Char) : List Char → Option Nat
  | [] => none
  | ['\\'] => none
  | '\\' :: c :: rest => if c = '\n' then none else (quotedLength? quote rest).map (· + 2)
  | c :: rest => if c = quote then some 1 else (quotedLength? quote rest).map (· + 1)

/-- May the character stand in a bare word? -/
def isBare (c : Char) : Bool :=
  !Text.isBlank c && c != '"' && c != '\'' && c != '=' && c != '!' && c != '<' && c != '>'

/-- The length of the token at the beginning of a text: a quoted text, a comparator or a bare word. -/
def tokenLength? : List Char → Option Nat
  | '"' :: rest => (quotedLength? '"' rest).map (· + 1)
  | '\'' :: rest => (quotedLength? '\'' rest).map (· + 1)
  | '=' :: '=' :: _ => some 2
  | '!' :: '=' :: _ => some 2
  | '<' :: '=' :: _ => some 2
  | '>' :: '=' :: _ => some 2
  | '<' :: _ => some 1
  | '>' :: _ => some 1
  | s => match (s.takeWhile isBare).length with
    | 0 => none
    | n + 1 => some (n + 1)

/-- The worker of `tokens`: `skip` characters of a token are still to be passed over, `here` is the byte
offset of the text, and `last` that of the end of the token before. -/
def tokensGo : Nat → Nat → Nat → List Char → Except Error (List (List Char))
  | _, _, _, [] => .ok []
  | skip + 1, here, last, c :: s => tokensGo skip (here + c.utf8Size) last s
  | 0, here, last, c :: s =>
    if Text.isBlank c then tokensGo 0 (here + c.utf8Size) last s
    else match tokenLength? (c :: s) with
      | none => .error (.unexpectedInput last)
      | some n => do
        let token := (c :: s).take n
        let rest ← tokensGo (n - 1) (here + c.utf8Size) (here + Text.size token) s
        return token :: rest

/-- The tokens of a text, white space between them left out. -/
def tokens (s : List Char) : Except Error (List (List Char)) :=
  tokensGo 0 0 0 s

/-- The content of a quoted text: a backslash gives way to the character after it. -/
def unescape : List Char → List Char
  | [] => []
  | ['\\'] => []
  | '\\' :: c :: rest => c :: unescape rest
  | c :: rest => c :: unescape rest

/-- The operand with a given name, if it is one of the two references. -/
def reference? (name : List Char) : Option Operand :=
  if name == "value".toList then some .value
  else if name == "parentValue".toList then some .parentValue
  else none

/-- The operand that a token stands for; quotes do not keep a reference from being one. -/
def operand (token : List Char) : Except Error Operand :=
  match token with
  | quote :: body =>
    if quote = '"' ∨ quote = '\'' then
      if body.getLast? = some quote then
        let content := unescape body.dropLast
        .ok ((reference? content).getD (.literal (String.ofList content)))
      else .error (.unterminatedLiteral (String.ofList token))
    else match reference? token with
      | some found => .ok found
      | none =>
        if (Decimal.binary64? token).isSome then .ok (.literal (String.ofList token))
        else .error (.unknownOperand (String.ofList token))
  | [] => .error (.unknownOperand "")

/-- Reads a comparison. The comparator is checked before the operands. -/
def parse (source : String) : Except Error Equation := do
  match ← tokens source.toList with
  | [left, middle, right] =>
    match Comparator.ofSymbol? middle with
    | some comparator => return { left := ← operand left, comparator, right := ← operand right }
    | none => .error (.unknownComparator (String.ofList middle))
  | found => .error (.tokenCount found.length)

end Harvest.Equation

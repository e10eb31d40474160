import Harvest.Markup.Reference

/-! The tokens of a selector text. Comments vanish; what is no token by itself stays as a single sign. -/

namespace Harvest.Selector

/-- A token. -/
inductive Token where
  | name (text : String)
  /-- A name with an opening parenthesis right behind it. -/
  | function (name : String)
  | atName (name : String)
  /-- A number sign with text behind it; `isName` says whether the text could be a name. -/
  | hash (text : String) (isName : Bool)
  | quoted (text : String)
  /-- A number: its sign was written, and its value is whole. -/
  | number (signed : Bool) (value : Option Int)
  | dimension (signed : Bool) (value : Option Int) (unit : String)
  | percentage
  | blank
  /-- An operator that ends in an equals sign: its first character. -/
  | compare (first : Char)
  | openRound
  | openSquare
  | openCurly
  | closeRound
  | closeSquare
  | closeCurly
  | colon
  | semicolon
  | comma
  | sign (c : Char)
  /-- A text that breaks off or a form that no selector has. -/
  | broken
  deriving DecidableEq, Repr, Inhabited

namespace Token

/-- A line end. -/
def isNewline (c : Char) : Bool :=
  c = '\n' || c = '\r' || c = '\x0c'

/-- White space between tokens. -/
def isBlank (c : Char) : Bool :=
  isNewline c || c = ' ' || c = '\t'

/-- May a name begin with the character? Code point zero counts as the replacement character. -/
def startsName (c : Char) : Bool :=
  c.isAlpha || c = '_' || 0x80 ≤ c.toNat || c = '\x00'

/-- May the character stand inside a name? -/
def insideName (c : Char) : Bool :=
  startsName c || c.isDigit || c = '-'

/-- Is the backslash at the beginning an escape? -/
def isEscape : List Char → Bool
  | '\\' :: c :: _ => !isNewline c
  | ['\\'] => true
  | _ => false

/-- Does a name begin here? -/
def beginsName : List Char → Bool
  | '-' :: '-' :: _ => true
  | '-' :: c :: rest => startsName c || isEscape (c :: rest)
  | ['-'] => false
  | c :: rest => startsName c || isEscape (c :: rest)
  | [] => false

/-- The character of an escape, read after the backslash, and the rest. -/
def escape (s : List Char) : Char × List Char :=
  match s with
  | [] => (Markup.replacementChar, [])
  | c :: rest =>
    let run := (s.take 6).takeWhile fun c => (Json.hexDigit? c).isSome
    if run.isEmpty then (if c = '\x00' then Markup.replacementChar else c, rest)
    else
      let n := run.foldl (fun n c => 16 * n + (Json.hexDigit? c).getD 0) 0
      let rest := match s.drop run.length with
        | '\r' :: '\n' :: rest => rest
        | c :: rest => if isBlank c then rest else c :: rest
        | [] => []
      let c := if n = 0 ∨ 0x10FFFF < n ∨ (0xD800 ≤ n ∧ n ≤ 0xDFFF) then Markup.replacementChar
        else Char.ofNat n
      (c, rest)

/-- The characters of a name and the rest. -/
def nameChars : Nat → List Char → List Char × List Char
  | 0, s => ([], s)
  | fuel + 1, s =>
    match s with
    | [] => ([], [])
    | c :: rest =>
      if insideName c then
        let (run, rest) := nameChars fuel rest
        ((if c = '\x00' then Markup.replacementChar else c) :: run, rest)
      else if isEscape s then
        let (c, rest) := escape rest
        let (run, rest) := nameChars fuel rest
        (c :: run, rest)
      else ([], s)

/-- The name at the beginning and the rest. -/
def takeName (s : List Char) : String × List Char :=
  let (run, rest) := nameChars (s.length + 1) s
  (String.ofList run, rest)

/-- The text up to a closing quote and the rest; none when a line ends first. -/
def quotedChars (quote : Char) : Nat → List Char → Option (List Char × List Char)
  | 0, _ => none
  | _ + 1, [] => some ([], [])
  | fuel + 1, c :: rest =>
    if c = quote then some ([], rest)
    else if isNewline c then none
    else if c = '\\' then
      match rest with
      | [] => some ([], [])
      | '\r' :: '\n' :: rest => quotedChars quote fuel rest
      | next :: more =>
        if isNewline next then quotedChars quote fuel more
        else
          let (c, rest) := escape rest
          (quotedChars quote fuel rest).map fun (run, rest) => (c :: run, rest)
    else
      (quotedChars quote fuel rest).map fun (run, rest) =>
        ((if c = '\x00' then Markup.replacementChar else c) :: run, rest)

/-- The rest after a comment's end. -/
def afterComment : List Char → List Char
  | [] => []
  | '*' :: '/' :: rest => rest
  | _ :: rest => afterComment rest

/-- The largest whole number that is kept apart from larger ones. -/
def largest : Int := 2147483647

/-- Does a number begin here? -/
def beginsNumber (s : List Char) : Bool :=
  let unsigned : List Char → Bool
    | '.' :: c :: _ => c.isDigit
    | c :: _ => c.isDigit
    | [] => false
  match s with
  | '+' :: rest => unsigned rest
  | '-' :: rest => unsigned rest
  | _ => unsigned s

/-- The number at the beginning, with its unit or percent sign, and the rest. -/
def takeNumber (s : List Char) : Token × List Char :=
  let (negative, body) := Decimal.signed s
  let signed := body.length < s.length
  let whole := body.takeWhile Char.isDigit
  let rest := body.drop whole.length
  let (part, rest) := match rest with
    | '.' :: c :: more =>
      if c.isDigit then ((c :: more).takeWhile Char.isDigit, (c :: more).dropWhile Char.isDigit)
      else ([], rest)
    | _ => ([], rest)
  let (power, rest) := match rest with
    | e :: more =>
      if e = 'e' ∨ e = 'E' then
        let digits := (Decimal.signed more).2
        match digits with
        | c :: _ => if c.isDigit then (true, digits.dropWhile Char.isDigit) else (false, rest)
        | [] => (false, rest)
      else (false, rest)
    | [] => (false, rest)
  let value : Option Int :=
    if part.isEmpty && !power then
      let n : Int := Decimal.ofDigits 0 whole
      some (if negative then max (-n) (-largest - 1) else min n largest)
    else none
  if beginsName rest then
    let (unit, rest) := takeName rest
    (.dimension signed value unit, rest)
  else match rest with
    | '%' :: rest => (.percentage, rest)
    | _ => (.number signed value, rest)

/-- The tokens of a text; `fuel` exceeds its length. -/
def scan : Nat → List Char → List Token
  | 0, _ => []
  | _ + 1, [] => []
  | fuel + 1, c :: rest =>
    let s := c :: rest
    if isBlank c then .blank :: scan fuel (rest.dropWhile isBlank)
    else if c = '"' ∨ c = '\'' then
      match quotedChars c (s.length + 1) rest with
      | some (run, rest) => .quoted (String.ofList run) :: scan fuel rest
      | none => .broken :: scan fuel rest
    else if c = '#' then
      match rest with
      | next :: _ =>
        if insideName next || isEscape rest then
          let (text, after) := takeName rest
          .hash text (beginsName rest) :: scan fuel after
        else .sign c :: scan fuel rest
      | [] => [.sign c]
    else if beginsNumber s then
      let (token, rest) := takeNumber s
      token :: scan fuel rest
    else if "-->".toList.isPrefixOf s then .broken :: scan fuel (s.drop 3)
    else if "<!--".toList.isPrefixOf s then .broken :: scan fuel (s.drop 4)
    else if beginsName s then
      let (text, after) := takeName s
      match after with
      | '(' :: after => .function text :: scan fuel after
      | _ => .name text :: scan fuel after
    else if c = '@' ∧ beginsName rest then
      let (text, after) := takeName rest
      .atName text :: scan fuel after
    else match s with
      | '/' :: '*' :: rest => scan fuel (afterComment rest)
      | '~' :: '=' :: rest => .compare '~' :: scan fuel rest
      | '|' :: '=' :: rest => .compare '|' :: scan fuel rest
      | '^' :: '=' :: rest => .compare '^' :: scan fuel rest
      | '$' :: '=' :: rest => .compare '$' :: scan fuel rest
      | '*' :: '=' :: rest => .compare '*' :: scan fuel rest
      | '(' :: rest => .openRound :: scan fuel rest
      | '[' :: rest => .openSquare :: scan fuel rest
      | '\x7b' :: rest => .openCurly :: scan fuel rest
      | ')' :: rest => .closeRound :: scan fuel rest
      | ']' :: rest => .closeSquare :: scan fuel rest
      | '\x7d' :: rest => .closeCurly :: scan fuel rest
      | ':' :: rest => .colon :: scan fuel rest
      | ';' :: rest => .semicolon :: scan fuel rest
      | ',' :: rest => .comma :: scan fuel rest
      | _ => .sign c :: scan fuel rest

/-- The token that closes what a token opens. -/
def closer? : Token → Option Token
  | function _ => some closeRound
  | openRound => some closeRound
  | openSquare => some closeSquare
  | openCurly => some closeCurly
  | _ => none

/-- Splits after an opening token: the tokens inside and those behind the closing one. At the end of the text
everything open is closed. `open_` are the closing tokens still due, innermost first. -/
def block (closing : Token) (open_ : List Token) : List Token → List Token × List Token
  | [] => ([], [])
  | token :: rest =>
    if open_.isEmpty ∧ token = closing then ([], rest)
    else
      let open_ := match token.closer? with
        | some due => due :: open_
        | none => if open_.head? = some token then open_.drop 1 else open_
      let (inside, rest) := block closing open_ rest
      (token :: inside, rest)

/-- The tokens up to the next comma that stands in no brackets, and those behind it. -/
def upToComma (open_ : List Token) : List Token → List Token × Option (List Token)
  | [] => ([], none)
  | token :: rest =>
    if open_.isEmpty ∧ token = .comma then ([], some rest)
    else
      let open_ := match token.closer? with
        | some due => due :: open_
        | none => if open_.head? = some token then open_.drop 1 else open_
      let (inside, rest) := upToComma open_ rest
      (token :: inside, rest)

end Token

end Harvest.Selector

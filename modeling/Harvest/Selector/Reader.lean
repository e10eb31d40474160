import Harvest.Selector.Basic
import Harvest.Selector.Token

/-! Reading a selector. A text that is none has no value. -/

namespace Harvest.Selector

/-- Drops white space in front. -/
def skipBlank : List Token → List Token
  | .blank :: rest => skipBlank rest
  | rest => rest

/-- The digits after the letter n and a hyphen, with the sign in front: `n-3` gives -3. -/
def afterHyphen? (name : List Char) : Option Int :=
  match name with
  | n :: '-' :: digits =>
    if (n = 'n' ∨ n = 'N') ∧ !digits.isEmpty ∧ digits.all Char.isDigit then
      some (max (-(Decimal.ofDigits 0 digits : Int)) (-Token.largest - 1))
    else none
  | _ => none

/-- A whole number without a sign, after a sign that was written apart. -/
def unsigned? (step sign : Int) (tokens : List Token) : Option (Int × Int × List Token) :=
  match skipBlank tokens with
  | .number false (some value) :: rest => some (step, sign * value, rest)
  | _ => none

/-- The summand of a series, if one is written. -/
def summand? (step : Int) (tokens : List Token) : Option (Int × Int × List Token) :=
  match skipBlank tokens with
  | .sign '+' :: rest => unsigned? step 1 rest
  | .sign '-' :: rest => unsigned? step (-1) rest
  | .number true (some value) :: rest => some (step, value, rest)
  | _ => some (step, 0, tokens)

/-- The summand of a series whose unit text is read. -/
def seriesUnit? (step : Int) (unit : String) (rest : List Token) : Option (Int × Int × List Token) :=
  let lower := Text.lower unit
  if lower = "n" then summand? step rest
  else if lower = "n-" then unsigned? step (-1) rest
  else (afterHyphen? unit.toList).map fun start => (step, start, rest)

/-- The series `step · n + start` and the rest. -/
def series? (tokens : List Token) : Option (Int × Int × List Token) :=
  match skipBlank tokens with
  | .number _ (some start) :: rest => some (0, start, rest)
  | .dimension _ (some step) unit :: rest => seriesUnit? step unit rest
  | .name text :: rest =>
    let lower := Text.lower text
    if lower = "even" then some (2, 0, rest)
    else if lower = "odd" then some (2, 1, rest)
    else match text.toList with
      | '-' :: unit => seriesUnit? (-1) (String.ofList unit) rest
      | _ => seriesUnit? 1 text rest
  | .sign '+' :: .name text :: rest => seriesUnit? 1 text rest
  | _ => none

/-- The conditions that a pseudo-class without arguments stands for. -/
def pseudoClass? (name : String) : Option (List Simple) :=
  match Text.lower name with
  | "first-child" => some [.position 0 1 false false]
  | "last-child" => some [.position 0 1 true false]
  | "only-child" => some [.position 0 1 false false, .position 0 1 true false]
  | "first-of-type" => some [.position 0 1 false true]
  | "last-of-type" => some [.position 0 1 true true]
  | "only-of-type" => some [.position 0 1 false true, .position 0 1 true true]
  | "root" => some [.root]
  | "empty" => some [.empty]
  | "scope" => some [.scope]
  | _ => none

/-- Which positions a pseudo-class with a series counts: from the end, and of one type. -/
def positionClass? (name : String) : Option (Bool × Bool) :=
  match Text.lower name with
  | "nth-child" => some (false, false)
  | "nth-last-child" => some (true, false)
  | "nth-of-type" => some (false, true)
  | "nth-last-of-type" => some (true, true)
  | _ => none

/-- Pseudo-elements that may be written with a single colon. -/
def isPseudoElement (name : String) : Bool :=
  ["before", "after", "first-line", "first-letter"].contains (Text.lower name)

/-- What an attribute value is compared by. -/
def attributeTest? : Token → Option AttributeTest
  | .sign '=' => some .equals
  | .compare '~' => some .hasWord
  | .compare '|' => some .equalsOrHyphen
  | .compare '^' => some .startsWith
  | .compare '$' => some .endsWith
  | .compare '*' => some .holds
  | _ => none

/-- The name of an attribute, a namespace aside, and the rest. -/
def attributeName? : List Token → Option (String × List Token)
  | .name text :: rest => some (text, rest)
  | .sign '|' :: .name text :: rest => some (text, rest)
  | .sign '*' :: .sign '|' :: .name text :: rest => some (text, rest)
  | _ => none

/-- A condition on an attribute, read inside its brackets. -/
def attribute? (tokens : List Token) : Option Simple := do
  let (name, rest) ← attributeName? (skipBlank tokens)
  match skipBlank rest with
  | [] => return .hasAttribute name
  | operator :: rest =>
    let test ← attributeTest? operator
    let (value, rest) ← match skipBlank rest with
      | .name text :: rest => some (text, rest)
      | .quoted text :: rest => some (text, rest)
      | _ => none
    match skipBlank rest with
    | [] => return .attribute name test value .byName
    | .name flag :: rest =>
      if !(skipBlank rest).isEmpty then none
      else if Text.lower flag = "i" then return .attribute name test value .ignored
      else if Text.lower flag = "s" then return .attribute name test value .kept
      else none
    | _ => none

/-- The condition on the element's name at the beginning of a compound, if there is one, and the rest. -/
def typeCondition? (tokens : List Token) : Option (Option Simple × List Token) :=
  let qualified (rest : List Token) : Option (Option Simple × List Token) :=
    match rest with
    | .name text :: rest => some (some (.named text), rest)
    | .sign '*' :: rest => some (some .anyElement, rest)
    | _ => none
  match tokens with
  | .name _ :: .sign '|' :: _ => none
  | .sign '*' :: .sign '|' :: rest => qualified rest
  | .sign '|' :: rest => (qualified rest).map fun (_, rest) => (some .nothing, rest)
  | .name text :: rest => some (some (.named text), rest)
  | .sign '*' :: rest => some (some .anyElement, rest)
  | _ => some (none, tokens)

mutual

/-- The further conditions of a compound and the rest. A condition that is begun must be complete. -/
def conditions? : Nat → List Token → Option (List Simple × List Token)
  | 0, _ => none
  | fuel + 1, tokens =>
    let more (found : List Simple) (rest : List Token) : Option (List Simple × List Token) :=
      (conditions? fuel rest).map fun (others, rest) => (found ++ others, rest)
    match tokens with
    | .hash text true :: rest => more [.id text] rest
    | .sign '.' :: .name text :: rest => more [.className text] rest
    | .sign '.' :: _ => none
    | .openSquare :: rest =>
      let (inside, rest) := Token.block .closeSquare [] rest
      match attribute? inside with
      | some found => more [found] rest
      | none => none
    | .colon :: .name text :: rest =>
      if isPseudoElement text then none
      else match pseudoClass? text with
        | some found => more found rest
        | none => none
    | .colon :: .function name :: rest =>
      let (inside, rest) := Token.block .closeRound [] rest
      match positionClass? name with
      | some (fromEnd, sameType) =>
        match series? inside with
        | some (step, start, left) =>
          if (skipBlank left).isEmpty then more [.position step start fromEnd sameType] rest else none
        | none => none
      | none =>
        match Text.lower name with
        | "not" =>
          match list? fuel false inside with
          | some alternatives => more [.not alternatives] rest
          | none => none
        | "is" =>
          match list? fuel true inside with
          | some alternatives => more [.oneOf alternatives] rest
          | none => none
        | "where" =>
          match list? fuel true inside with
          | some alternatives => more [.oneOf alternatives] rest
          | none => none
        | _ => none
    | .colon :: _ => none
    | rest => some ([], rest)

/-- A compound, which must not be empty, and the rest. -/
def compound? : Nat → List Token → Option (List Simple × List Token)
  | 0, _ => none
  | fuel + 1, tokens =>
    match typeCondition? (skipBlank tokens) with
    | none => none
    | some (found, rest) =>
      match conditions? fuel rest with
      | none => none
      | some (others, rest) =>
        let all := found.toList ++ others
        if all.isEmpty then none else some (all, rest)

/-- The compounds that follow `left`, joined to it, up to the end of the tokens. -/
def joined? : Nat → Complex → List Token → Option Complex
  | 0, _, _ => none
  | fuel + 1, left, tokens =>
    let next (combinator : Combinator) (rest : List Token) : Option Complex :=
      match compound? fuel rest with
      | some (conditions, rest) => joined? fuel (.join left combinator conditions) rest
      | none => none
    match skipBlank tokens with
    | [] => some left
    | .sign '>' :: rest => next .child rest
    | .sign '+' :: rest => next .nextSibling rest
    | .sign '~' :: rest => next .laterSibling rest
    | rest => if tokens.head? = some .blank then next .descendant rest else none

/-- Alternatives with commas between them. A forgiving list leaves out what is no selector. -/
def list? : Nat → Bool → List Token → Option (List Complex)
  | 0, _, _ => none
  | fuel + 1, forgiving, tokens =>
    let (first, rest) := Token.upToComma [] tokens
    let found : Option Complex :=
      match compound? fuel first with
      | some (conditions, rest) => joined? fuel (.compound conditions) rest
      | none => none
    let others : Option (List Complex) :=
      match rest with
      | some rest => list? fuel forgiving rest
      | none => some []
    match found, others with
    | some complex, some others => some (complex :: others)
    | none, some others => if forgiving then some others else none
    | _, none => none

end

/-- Reads a selector. -/
def parse? (source : String) : Option Selector :=
  let s := source.toList
  (list? (4 * s.length + 8) false (Token.scan (s.length + 1) s)).map Selector.mk

end Harvest.Selector

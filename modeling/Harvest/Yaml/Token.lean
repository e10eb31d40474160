import Harvest.Yaml.Scalar

/-! The tokens of a document. Indentation opens and closes collections, and a word becomes a key when a
colon follows it on the same line. -/

namespace Harvest.Yaml

/-- What a document is made of. -/
inductive Token where
  | version (major minor : Nat)
  /-- What a handle of tags stands for. -/
  | handle (name stands : String)
  | documentStart
  | documentEnd
  | blockSequence
  | blockMapping
  | blockEnd
  | flowSequence
  | flowSequenceEnd
  | flowMapping
  | flowMappingEnd
  /-- The start of an item in a block. -/
  | entry
  | comma
  | key
  | value
  | alias (name : String)
  | anchor (name : String)
  | tag (handle name : String)
  | scalar (isPlain : Bool) (text : String)
  deriving DecidableEq, Repr, Inhabited

/-- A word that becomes a key when a colon follows. -/
structure PossibleKey where
  /-- Must a colon follow? -/
  required : Bool
  /-- The number of tokens before the word. -/
  position : Nat
  index : Nat
  line : Nat
  column : Nat
  deriving Repr, Inhabited

/-- The state of a scan. -/
structure Scan where
  cursor : Cursor
  tokens : Array Token := #[]
  /-- The column of the innermost block; none is open at -1. -/
  indent : Int := -1
  /-- The columns of the blocks around it. -/
  outerIndents : List Int := []
  /-- May a key start here? -/
  keyAllowed : Bool := true
  /-- The word that may become a key. -/
  possibleKey : Option PossibleKey := none
  /-- The same for the collections around the innermost pair of brackets. -/
  outerKeys : List (Option PossibleKey) := []
  deriving Repr, Inhabited

namespace Scan

/-- Is the place inside brackets? -/
def inFlow (scan : Scan) : Bool :=
  !scan.outerKeys.isEmpty

/-- Adds a token. -/
def push (scan : Scan) (token : Token) : Scan :=
  { scan with tokens := scan.tokens.push token }

/-- Adds a token behind some characters of the text. -/
def take (scan : Scan) (count : Nat) (token : Token) : Scan :=
  { scan with
    cursor := scan.cursor.advance count
    tokens := scan.tokens.push token }

/-- Adds a token in front of those from a position on. -/
def insertAt (scan : Scan) (position : Nat) (token : Token) : Scan :=
  { scan with
    tokens := (scan.tokens.extract 0 position).push token
      ++ scan.tokens.extract position scan.tokens.size }

/-- Opens a block at a column right of the innermost one. -/
def openBlock (scan : Scan) (column position : Nat) (token : Token) : Scan :=
  if scan.inFlow || column ≤ scan.indent then scan
  else
    { scan.insertAt position token with
      indent := column
      outerIndents := scan.indent :: scan.outerIndents }

/-- Closes the blocks right of a column. -/
def closeBlocks (scan : Scan) (column : Int) : Scan :=
  if scan.inFlow then scan else go scan.outerIndents scan
where
  go : List Int → Scan → Scan
    | [], scan => scan
    | outer :: rest, scan =>
      if scan.indent ≤ column then scan
      else go rest { scan.push .blockEnd with
        indent := outer
        outerIndents := rest }

/-- Gives up a word as a key; it fails if the word has to be one. -/
def dropKey? (scan : Scan) : Option Scan :=
  if scan.possibleKey.any (·.required) then none else some { scan with possibleKey := none }

/-- Notes that the word that follows may become a key. -/
def saveKey? (scan : Scan) : Option Scan :=
  if !scan.keyAllowed then some scan
  else do
    let scan ← scan.dropKey?
    let cursor := scan.cursor
    return { scan with
      possibleKey := some {
        required := !scan.inFlow && scan.indent = cursor.column
        position := scan.tokens.size
        index := cursor.index
        line := cursor.line
        column := cursor.column } }

/-- Is a word too far away to become a key? Keys stand on one line and are not longer than 1024. -/
def isStale (cursor : Cursor) (key : PossibleKey) : Bool :=
  key.line < cursor.line || key.index + 1024 < cursor.index

/-- Gives up the words that are too far away; it fails if one of them has to be a key. -/
def dropStale? (scan : Scan) : Option Scan :=
  let stale := isStale scan.cursor
  let missed (key : PossibleKey) : Bool := key.required && stale key
  if (scan.possibleKey :: scan.outerKeys).any (·.any missed) then none
  else
    let keep := Option.filter (!stale ·)
    some { scan with
      possibleKey := keep scan.possibleKey
      outerKeys := scan.outerKeys.map keep }

/-- Passes blanks, comments and line breaks. Behind a line break a key may start. -/
def skipGap : Nat → Scan → Scan
  | 0, scan => scan
  | fuel + 1, scan =>
    let next (cursor : Cursor) : Scan := { scan with cursor }
    match scan.cursor.rest with
    | [] => scan
    | c :: _ =>
      if c = ' ' ∨ (c = '\t' ∧ (scan.inFlow ∨ !scan.keyAllowed)) ∨
          (c = '\ufeff' ∧ scan.cursor.index = 0) then
        skipGap fuel (next (scan.cursor.advance 1))
      else if c = '#' then skipGap fuel (next (scan.cursor.skip (!isBreak ·)))
      else if isBreak c then
        let scan := next scan.cursor.lineBreak.2
        skipGap fuel { scan with keyAllowed := scan.keyAllowed || !scan.inFlow }
      else scan

/-! ## Tokens of one kind -/

/-- A directive: the version, or a handle of tags. -/
def directive? (scan : Scan) : Option Scan := do
  let scan ← (scan.closeBlocks (-1)).dropKey?
  let text (p : Char → Bool) (cursor : Cursor) : String := String.ofList (cursor.rest.takeWhile p)
  let cursor := scan.cursor.advance 1
  let name := text isNameChar cursor
  let cursor := (cursor.skip isNameChar).skip isBlank
  let (token, cursor) ←
    if name = "YAML" then do
      let major ← (text Char.isDigit cursor).toNat?
      let cursor := cursor.skip Char.isDigit
      if cursor.rest.head? ≠ some '.' then none
      let cursor := cursor.advance 1
      let minor ← (text Char.isDigit cursor).toNat?
      some (Token.version major minor, cursor.skip Char.isDigit)
    else if name = "TAG" then do
      let handle := text (!isGap ·) cursor
      let cursor := (cursor.skip (!isGap ·)).skip isBlank
      let stands := text (!isGap ·) cursor
      let inner := (handle.toList.drop 1).dropLast
      if handle = "!" ∨ (handle.toList.head? = some '!' ∧ handle.toList.getLast? = some '!'
          ∧ inner.all isNameChar) then
        some (Token.handle handle stands, cursor.skip (!isGap ·))
      else none
    else none
  let cursor ← cursor.endLine?
  return { scan.push token with
    cursor := cursor
    keyAllowed := false }

/-- A line that separates documents. -/
def documentMark? (token : Token) (scan : Scan) : Option Scan := do
  let scan ← (scan.closeBlocks (-1)).dropKey?
  return { scan.take 3 token with keyAllowed := false }

/-- An opening bracket. -/
def openFlow? (token : Token) (scan : Scan) : Option Scan := do
  let scan ← scan.saveKey?
  return { scan.take 1 token with
    keyAllowed := true
    possibleKey := none
    outerKeys := scan.possibleKey :: scan.outerKeys }

/-- A closing bracket. -/
def closeFlow? (token : Token) (scan : Scan) : Option Scan := do
  let scan ← scan.dropKey?
  let scan := { scan.take 1 token with keyAllowed := false }
  match scan.outerKeys with
  | [] => some scan
  | outer :: rest => some { scan with
    possibleKey := outer
    outerKeys := rest }

/-- A comma between items. -/
def comma? (scan : Scan) : Option Scan := do
  let scan ← scan.dropKey?
  return { scan.take 1 .comma with keyAllowed := true }

/-- Opens a block here, where one may start. -/
def openHere? (scan : Scan) (token : Token) : Option Scan :=
  if scan.inFlow then some scan
  else if !scan.keyAllowed then none
  else some (scan.openBlock scan.cursor.column scan.tokens.size token)

/-- The start of an item. -/
def entry? (scan : Scan) : Option Scan := do
  let scan ← (← scan.openHere? .blockSequence).dropKey?
  return { scan.take 1 .entry with keyAllowed := true }

/-- A question mark before a key. -/
def key? (scan : Scan) : Option Scan := do
  let scan ← (← scan.openHere? .blockMapping).dropKey?
  return { scan.take 1 .key with keyAllowed := !scan.inFlow }

/-- A colon. It makes the word before it a key. -/
def value? (scan : Scan) : Option Scan :=
  match scan.possibleKey with
  | some key =>
    let scan := (scan.insertAt key.position .key).openBlock key.column key.position .blockMapping
    some { scan.take 1 .value with
      possibleKey := none
      keyAllowed := false }
  | none => do
    let scan ← scan.openHere? .blockMapping
    return { scan.take 1 .value with keyAllowed := !scan.inFlow }

/-- A name behind one character. -/
def named? (token : String → Token) (scan : Scan) : Option Scan := do
  let scan ← scan.saveKey?
  let cursor := scan.cursor.advance 1
  let name := cursor.rest.takeWhile isNameChar
  let cursor := cursor.skip isNameChar
  let ends := match cursor.rest with
    | [] => true
    | c :: _ => isGap c || ['?', ':', ',', ']', '}', '%', '@', '\x60'].contains c
  if name.isEmpty || !ends then none
  else some { scan.push (token (String.ofList name)) with
    cursor := cursor
    keyAllowed := false }

/-- May a character be part of a tag? Inside angle brackets there are a few more. -/
def isTagChar (verbatim : Bool) (c : Char) : Bool :=
  isNameChar c || ";/?:@&=+$.!~*'()%".toList.contains c || (verbatim && ",[]".toList.contains c)

/-- A tag: in angle brackets, with a handle, or with a name alone. -/
def tag? (scan : Scan) : Option Scan := do
  let scan ← scan.saveKey?
  let rest := scan.cursor.rest.drop 1
  let ofList := String.ofList
  let (handle, name, count) ← match rest with
    | '<' :: more =>
      let name := more.takeWhile (isTagChar true)
      if name.isEmpty ∨ (more.drop name.length).head? ≠ some '>' then none
      else some ("", ofList name, name.length + 3)
    | _ =>
      let handle := rest.takeWhile isNameChar
      let more := rest.drop handle.length
      if more.head? = some '!' then
        let name := (more.drop 1).takeWhile (isTagChar false)
        if name.isEmpty then none
        else some (ofList ('!' :: handle ++ ['!']), ofList name, handle.length + name.length + 2)
      else
        let name := rest.takeWhile (isTagChar false)
        if name.isEmpty then some ("", "!", 1) else some ("!", ofList name, name.length + 1)
  let scan := { scan.take count (.tag handle name) with keyAllowed := false }
  if endsWord scan.cursor.rest || (scan.inFlow && scan.cursor.rest.head? = some ',') then some scan else none

/-- A block of lines. -/
def blockScalar? (literal : Bool) (scan : Scan) : Option Scan := do
  let scan ← scan.dropKey?
  let (text, cursor) ← block? literal scan.indent (scan.cursor.advance 1)
  return { scan.push (.scalar false text) with
    cursor := cursor
    keyAllowed := true }

/-- A scalar in quotes. -/
def quotedScalar? (quote : Char) (scan : Scan) : Option Scan := do
  let scan ← scan.saveKey?
  let cursor := scan.cursor.advance 1
  let (text, cursor) ← quoted? quote (cursor.rest.length + 1) [] cursor
  return { scan.push (.scalar false text) with
    cursor := cursor
    keyAllowed := false }

/-- A plain scalar. -/
def plainScalar? (scan : Scan) : Option Scan := do
  let scan ← scan.saveKey?
  let (text, broken, cursor) ←
    plain? scan.inFlow (scan.indent + 1) (scan.cursor.rest.length + 1) [] {} scan.cursor
  return { scan.push (.scalar true text) with
    cursor := cursor
    keyAllowed := broken }

/-- The characters that a plain scalar does not start with. -/
def isIndicator (c : Char) : Bool :=
  "-?:,[]\x7b\x7d#&*!|>'\"%@\x60".toList.contains c

/-! ## All tokens -/

/-- The tokens that start with the next character. -/
def next? (scan : Scan) (c : Char) (rest : List Char) : Option Scan :=
  let alone := endsWord rest
  if c = '%' ∧ scan.cursor.column = 0 then scan.directive?
  else if scan.cursor.atMark '-' then scan.documentMark? .documentStart
  else if scan.cursor.atMark '.' then scan.documentMark? .documentEnd
  else if c = '[' then scan.openFlow? .flowSequence
  else if c = '{' then scan.openFlow? .flowMapping
  else if c = ']' then scan.closeFlow? .flowSequenceEnd
  else if c = '}' then scan.closeFlow? .flowMappingEnd
  else if c = ',' then scan.comma?
  else if c = '-' ∧ alone then scan.entry?
  else if c = '?' ∧ (scan.inFlow ∨ alone) then scan.key?
  else if c = ':' ∧ (scan.inFlow ∨ alone) then scan.value?
  else if c = '*' then scan.named? .alias
  else if c = '&' then scan.named? .anchor
  else if c = '!' then scan.tag?
  else if c = '|' ∧ !scan.inFlow then scan.blockScalar? true
  else if c = '>' ∧ !scan.inFlow then scan.blockScalar? false
  else if c = '\'' ∨ c = '"' then scan.quotedScalar? c
  else if !(isGap c || isIndicator c) || (c = '-' && !rest.head?.any isBlank)
      || (!scan.inFlow && (c = '?' || c = ':') && !alone) then scan.plainScalar?
  else none

/-- Scans to the end of the text. -/
def finish? : Nat → Scan → Option (List Token)
  | 0, _ => none
  | fuel + 1, scan => do
    let scan ← (scan.skipGap (scan.cursor.rest.length + 1)).dropStale?
    let scan := scan.closeBlocks scan.cursor.column
    match scan.cursor.rest with
    | [] => (← (scan.closeBlocks (-1)).dropKey?).tokens.toList
    | c :: rest => finish? fuel (← scan.next? c rest)

end Scan

/-- The tokens of a text, unless it is malformed. -/
def tokens? (text : List Char) : Option (List Token) :=
  if text.all isAllowed then Scan.finish? (text.length + 1) { cursor := { rest := text } } else none

end Harvest.Yaml

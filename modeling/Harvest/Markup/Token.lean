import Harvest.Markup.Reference

/-! The tokens of a markup text. What a tag, comment or text run is depends on the content model of the
element around it, which the reader of the tokens chooses. -/

namespace Harvest.Markup

/-- Attributes with their values, in order; names are distinct. -/
abbrev Attributes := List (String × String)

/-- A token. -/
inductive Token where
  | doctype (name publicId systemId : Option String) (forceOlder : Bool)
  | startTag (name : String) (attributes : Attributes) (selfClosing : Bool)
  | endTag (name : String)
  | comment (text : String)
  /-- A run of characters, either all white space of markup or none of them. -/
  | text (white : Bool) (content : List Char)
  /-- The character of code point zero. -/
  | null
  | endOfText
  deriving Repr, Inhabited

/-- How the text inside an element is read. -/
inductive ContentModel where
  | data
  /-- References but no tags, up to the end tag of the given name. -/
  | references (name : String)
  /-- Neither references nor tags, up to the end tag of the given name. -/
  | raw (name : String)
  /-- As `raw`, but an end tag inside a commented-out start tag does not count. -/
  | script
  | plain
  deriving DecidableEq, Repr, Inhabited

/-- White space of markup. -/
def isWhite (c : Char) : Bool :=
  c = '\t' || c = '\n' || c = '\x0c' || c = '\r' || c = ' '

/-- Puts the replacement character in the place of code point zero. -/
def withoutNull (s : List Char) : List Char :=
  s.map fun c => if c = '\x00' then replacementChar else c

/-- A name in lower case. -/
def nameOf (s : List Char) : String :=
  String.ofList ((withoutNull s).map Char.toLower)

/-- Line ends are line feeds, and a byte order mark in front is dropped. -/
def normalizeNewlines : List Char → List Char
  | [] => []
  | '\r' :: '\n' :: rest => '\n' :: normalizeNewlines rest
  | '\r' :: rest => '\n' :: normalizeNewlines rest
  | c :: rest => c :: normalizeNewlines rest

/-- Drops a byte order mark in front. -/
def withoutMark : List Char → List Char
  | c :: rest => if c = Char.ofNat 0xFEFF then rest else c :: rest
  | [] => []

/-- Splits at the first occurrence of any of the given ends: the text before and after it. -/
def upTo (ends : List (List Char)) : List Char → List Char × List Char
  | [] => ([], [])
  | c :: s =>
    match ends.findSome? fun mark => Text.after? mark (c :: s) with
    | some rest => ([], rest)
    | none =>
      let (before, rest) := upTo ends s
      (c :: before, rest)

/-- An attribute value and the rest, read after the equals sign. -/
def attributeValue (s : List Char) : String × List Char :=
  let decode (text : List Char) : String :=
    String.ofList (decodeReferences true text.length (withoutNull text))
  match s.dropWhile isWhite with
  | '"' :: rest => (decode (rest.takeWhile (· ≠ '"')), (rest.dropWhile (· ≠ '"')).drop 1)
  | '\'' :: rest => (decode (rest.takeWhile (· ≠ '\'')), (rest.dropWhile (· ≠ '\'')).drop 1)
  | rest =>
    let inside (c : Char) : Bool := !isWhite c && c ≠ '>'
    (decode (rest.takeWhile inside), rest.dropWhile inside)

/-- Is the quoted attribute value at the beginning left open? -/
def valueLeftOpen (s : List Char) : Bool :=
  match s.dropWhile isWhite with
  | '"' :: rest => !rest.contains '"'
  | '\'' :: rest => !rest.contains '\''
  | _ => false

/-- Reads attributes up to the end of the tag: the attributes, whether the tag closes itself, and the rest.
The first of two attributes of one name counts. A tag that the text ends in gives nothing. -/
def tagBody : Nat → Attributes → List Char → Option (Attributes × Bool × List Char)
  | 0, _, _ => none
  | fuel + 1, done, s =>
    match s.dropWhile isWhite with
    | [] => none
    | '>' :: rest => some (done.reverse, false, rest)
    | '/' :: '>' :: rest => some (done.reverse, true, rest)
    | '/' :: rest => tagBody fuel done rest
    | c :: s =>
      -- An equals sign in front belongs to the name.
      let inside (c : Char) : Bool := !isWhite c && c ≠ '/' && c ≠ '>' && c ≠ '='
      let name := nameOf (c :: s.takeWhile inside)
      let keep (value : String) : Attributes :=
        if done.any (·.1 = name) then done else (name, value) :: done
      match (s.dropWhile inside).dropWhile isWhite with
      | '=' :: rest =>
        if valueLeftOpen rest then none
        else
          let (value, rest) := attributeValue rest
          tagBody fuel (keep value) rest
      | rest => tagBody fuel (keep "") rest

/-- A tag, read from its name on; a tag that the text ends in is lost with the rest of the text. -/
def tag (isEnd : Bool) (s : List Char) : Token × List Char :=
  let inside (c : Char) : Bool := !isWhite c && c ≠ '/' && c ≠ '>'
  let name := nameOf (s.takeWhile inside)
  let body := s.dropWhile inside
  match tagBody (body.length + 1) [] body with
  | none => (.endOfText, [])
  | some (attributes, selfClosing, rest) =>
    (if isEnd then .endTag name else .startTag name attributes selfClosing, rest)

/-- The content of a comment and the rest, read after the two hyphens. -/
def comment (s : List Char) : Token × List Char :=
  match s with
  | '>' :: rest => (.comment "", rest)
  | '-' :: '>' :: rest => (.comment "", rest)
  | _ =>
    let (text, rest) := upTo ["-->".toList, "--!>".toList] s
    (.comment (String.ofList (withoutNull text)), rest)

/-- A quoted identifier: its text, whether it was closed, and the rest. -/
def quotedIdentifier (quote : Char) (s : List Char) : String × Bool × List Char :=
  let inside (c : Char) : Bool := c ≠ quote && c ≠ '>'
  let text := String.ofList (withoutNull (s.takeWhile inside))
  match s.dropWhile inside with
  | [] => (text, false, [])
  | c :: rest => if c = quote then (text, true, rest) else (text, false, c :: rest)

/-- The rest after the tag's closing bracket. -/
def afterBracket (s : List Char) : List Char :=
  (s.dropWhile (· ≠ '>')).drop 1

/-- The end of a document type whose identifiers are read. -/
def doctypeEnd (name publicId systemId : Option String) (s : List Char) : Token × List Char :=
  match s.dropWhile isWhite with
  | '>' :: rest => (.doctype name publicId systemId false, rest)
  | [] => (.doctype name publicId systemId true, [])
  | rest => (.doctype name publicId systemId systemId.isNone, afterBracket rest)

/-- The system identifier of a document type and its end. -/
def doctypeSystem (name publicId : Option String) (required : Bool) (s : List Char) : Token × List Char :=
  let take (quote : Char) (rest : List Char) : Token × List Char :=
    let (text, closed, rest) := quotedIdentifier quote rest
    if closed then doctypeEnd name publicId (some text) rest
    else (.doctype name publicId (some text) true, rest.drop 1)
  match s.dropWhile isWhite with
  | '"' :: rest => take '"' rest
  | '\'' :: rest => take '\'' rest
  | '>' :: rest => (.doctype name publicId none required, rest)
  | rest => (.doctype name publicId none true, afterBracket rest)

/-- The public identifier of a document type and what follows it. -/
def doctypePublic (name : Option String) (s : List Char) : Token × List Char :=
  let take (quote : Char) (rest : List Char) : Token × List Char :=
    let (text, closed, rest) := quotedIdentifier quote rest
    if closed then doctypeSystem name (some text) false rest
    else (.doctype name (some text) none true, rest.drop 1)
  match s.dropWhile isWhite with
  | '"' :: rest => take '"' rest
  | '\'' :: rest => take '\'' rest
  | rest => (.doctype name none none true, afterBracket rest)

/-- A document type, read after its keyword. -/
def doctype (s : List Char) : Token × List Char :=
  match s.dropWhile isWhite with
  | [] => (.doctype none none none true, [])
  | '>' :: rest => (.doctype none none none true, rest)
  | s =>
    let inside (c : Char) : Bool := !isWhite c && c ≠ '>'
    let name := some (nameOf (s.takeWhile inside))
    match (s.dropWhile inside).dropWhile isWhite with
    | [] => (.doctype name none none true, [])
    | '>' :: rest => (.doctype name none none false, rest)
    | rest =>
      if Text.sameLetters (rest.take 6) "public".toList then doctypePublic name (rest.drop 6)
      else if Text.sameLetters (rest.take 6) "system".toList then
        doctypeSystem name none true (rest.drop 6)
      else (.doctype name none none true, afterBracket rest)

/-- Does an end tag of the given name start here? -/
def endsElement (name : String) : List Char → Bool
  | '<' :: '/' :: s =>
    Text.sameLetters (s.take name.length) name.toList &&
      (match s.drop name.length with
        | c :: _ => isWhite c || c = '/' || c = '>'
        | [] => false)
  | _ => false

/-- The text up to the end tag of the given name. -/
def rawRun (name : String) : List Char → List Char × List Char
  | [] => ([], [])
  | c :: s =>
    if endsElement name (c :: s) then ([], c :: s)
    else
      let (run, rest) := rawRun name s
      (c :: run, rest)

/-- How far a script is inside a comment and a script start tag within it. -/
inductive ScriptState where
  | plain
  | commented
  | nested
  deriving DecidableEq, Repr

/-- Does `name` start here and end at a character that ends tag names? -/
def startsTagName (name : String) (s : List Char) : Bool :=
  Text.sameLetters (s.take name.length) name.toList &&
    (match s.drop name.length with
      | c :: _ => isWhite c || c = '/' || c = '>'
      | [] => false)

/-- The text of a script up to its end tag. -/
def scriptRun (state : ScriptState) : List Char → List Char × List Char
  | [] => ([], [])
  | c :: s =>
    if state ≠ .nested && endsElement "script" (c :: s) then ([], c :: s)
    else
      let next : ScriptState :=
        match state with
        | .plain => if "<!--".toList.isPrefixOf (c :: s) then .commented else .plain
        | .commented =>
          if "-->".toList.isPrefixOf (c :: s) then .plain
          else if c = '<' && startsTagName "script" s then .nested
          else .commented
        | .nested =>
          if "-->".toList.isPrefixOf (c :: s) then .plain
          else if endsElement "script" (c :: s) then .commented
          else .nested
      let (run, rest) := scriptRun next s
      (c :: run, rest)

/-- The next characters of ordinary text: a decoded reference or one character. -/
def textUnit (s : List Char) : List Char × List Char :=
  match s with
  | [] => ([], [])
  | '&' :: rest => reference false rest
  | c :: rest => ([c], rest)

/-- Does the text at a `<` start a tag, a comment or a declaration? -/
def startsMarkup : List Char → Bool
  | '<' :: '!' :: _ => true
  | '<' :: '?' :: _ => true
  | '<' :: '/' :: _ :: _ => true
  | '<' :: c :: _ => c.isAlpha
  | _ => false

/-- A run of ordinary characters of one kind; `done` are those so far, reversed. -/
def textRun (white : Bool) : Nat → List Char → List Char → List Char × List Char
  | 0, done, s => (done.reverse, s)
  | fuel + 1, done, s =>
    if startsMarkup s then (done.reverse, s)
    else match textUnit s with
      | (unit@(c :: _), rest) =>
        if isWhite c = white ∧ c ≠ '\x00' then textRun white fuel (unit.reverse ++ done) rest
        else (done.reverse, s)
      | ([], _) => (done.reverse, s)

/-- The token at the beginning of ordinary text. -/
def dataToken (sections : Bool) (s : List Char) : Token × List Char :=
  match s with
  | [] => (.endOfText, [])
  | '<' :: '!' :: rest =>
    match Text.after? "--".toList rest with
    | some rest => comment rest
    | none =>
      if Text.sameLetters (rest.take 7) "doctype".toList then doctype (rest.drop 7)
      else match if sections then Text.after? "[CDATA[".toList rest else none with
        | some rest =>
          let (text, rest) := upTo ["]]>".toList] rest
          (.text (!text.isEmpty && text.all isWhite) text, rest)
        | none =>
          let (text, rest) := upTo [[ '>' ]] rest
          (.comment (String.ofList (withoutNull text)), rest)
  | '<' :: '?' :: rest =>
    let (text, rest) := upTo [[ '>' ]] ('?' :: rest)
    (.comment (String.ofList (withoutNull text)), rest)
  | '<' :: '/' :: c :: rest =>
    if c.isAlpha then tag true (c :: rest)
    else if c = '>' then (.text true [], rest)
    else
      let (text, rest) := upTo [[ '>' ]] (c :: rest)
      (.comment (String.ofList (withoutNull text)), rest)
  | '\x00' :: rest => (.null, rest)
  | c :: rest =>
    if startsMarkup (c :: rest) then tag false rest
    else
      let (unit, after) := textUnit (c :: rest)
      let white := match unit with
        | first :: _ => isWhite first
        | [] => false
      let (run, after) := textRun white after.length [] after
      (.text white (unit ++ run), after)

/-- A run of text without tags as one token, or the end tag that follows it. -/
def runToken (run : List Char × List Char) (decode : Bool) : Token × List Char :=
  match run with
  | ([], []) => (.endOfText, [])
  | ([], rest) => tag true (rest.drop 2)
  | (text, rest) =>
    let text := withoutNull text
    (.text false (if decode then decodeReferences false text.length text else text), rest)

/-- The next token and the rest of the text. `sections` says whether marked sections are read. -/
def nextToken (model : ContentModel) (sections : Bool) (s : List Char) : Token × List Char :=
  match model with
  | .data => dataToken sections s
  | .references name => runToken (rawRun name s) true
  | .raw name => runToken (rawRun name s) false
  | .script => runToken (scriptRun .plain s) false
  | .plain => if s.isEmpty then (.endOfText, []) else (.text false (withoutNull s), [])

end Harvest.Markup

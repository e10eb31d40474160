import Harvest.Yaml.Cursor
import Harvest.Yaml.Kind

/-! Scalars as they are written: plain, in quotes, or as a block of lines. Where a scalar goes on over
several lines, a single line break counts as a space. -/

namespace Harvest.Yaml

/-! ## What stands between words -/

/-- The blanks and line breaks between two words. -/
structure Gap where
  /-- Blanks before the first line break. -/
  blanks : List Char := []
  /-- Did a line end? -/
  broken : Bool := false
  /-- The first line break. -/
  first : List Char := []
  /-- The other line breaks. -/
  others : List Char := []

/-- What a gap stands for: blanks on a line for themselves, a single line break for a space. -/
def Gap.text (gap : Gap) : List Char :=
  if !gap.broken then gap.blanks
  else if gap.first = ['\n'] then (if gap.others.isEmpty then [' '] else gap.others)
  else gap.first ++ gap.others

/-- Reads on in a gap. A tab does not stand for indentation, so it is refused left of the given column. -/
def gap? (indent : Int) : Nat → Gap → Cursor → Option (Gap × Cursor)
  | 0, gap, cursor => some (gap, cursor)
  | fuel + 1, gap, cursor =>
    match cursor.rest with
    | [] => some (gap, cursor)
    | c :: _ =>
      if isBlank c then
        if !gap.broken then gap? indent fuel { gap with blanks := gap.blanks ++ [c] } (cursor.advance 1)
        else if c = '\t' ∧ cursor.column < indent then none
        else gap? indent fuel gap (cursor.advance 1)
      else if isBreak c then
        let (ended, cursor) := cursor.lineBreak
        if gap.broken then gap? indent fuel { gap with others := gap.others ++ ended } cursor
        else gap? indent fuel { gap with broken := true, first := ended } cursor
      else some (gap, cursor)

/-! ## Plain scalars -/

/-- The characters that structure collections in brackets. -/
def isFlowIndicator (c : Char) : Bool :=
  [',', '[', ']', '{', '}'].contains c

/-- The word at the start of a text, as far as it belongs to a plain scalar. -/
def plainWord? (inFlow : Bool) : List Char → Option (List Char)
  | [] => some []
  | c :: rest =>
    if isGap c then some []
    else if c = ':' ∧ inFlow ∧ (rest.head?.any fun d => d = '?' || isFlowIndicator d) then none
    else if c = ':' ∧ endsWord rest then some []
    else if inFlow && isFlowIndicator c then some []
    else (plainWord? inFlow rest).map (c :: ·)

/-- Reads on in a plain scalar, whose lines are not left of the given column. Gives its text and whether it
ends behind a line break. -/
def plain? (inFlow : Bool) (indent : Int) : Nat → List Char → Gap → Cursor →
    Option (String × Bool × Cursor)
  | 0, _, _, _ => none
  | fuel + 1, text, gap, cursor =>
    let done := some (String.ofList text, gap.broken, cursor)
    if cursor.atDocumentMark || cursor.rest.head? = some '#' then done
    else
      match plainWord? inFlow cursor.rest with
      | none => none
      | some [] => done
      | some word =>
        let text := text ++ gap.text ++ word
        let cursor := cursor.advance word.length
        match gap? indent cursor.rest.length {} cursor with
        | none => none
        | some (gap, cursor) =>
          if !inFlow ∧ cursor.column < indent then some (String.ofList text, gap.broken, cursor)
          else plain? inFlow indent fuel text gap cursor

/-! ## Scalars in quotes -/

/-- The character that an escape with one letter stands for. -/
def escape? : Char → Option Char
  | '0' => some '\x00'
  | 'a' => some '\x07'
  | 'b' => some '\x08'
  | 't' | '\t' => some '\t'
  | 'n' => some '\n'
  | 'v' => some '\x0b'
  | 'f' => some '\x0c'
  | 'r' => some '\r'
  | 'e' => some '\x1b'
  | ' ' => some ' '
  | '"' => some '"'
  | '/' => some '/'
  | '\\' => some '\\'
  | 'N' => some '\u0085'
  | '_' => some '\u00a0'
  | 'L' => some '\u2028'
  | 'P' => some '\u2029'
  | _ => none

/-- The number of digits of an escape by number. -/
def escapeDigits? : Char → Option Nat
  | 'x' => some 2
  | 'u' => some 4
  | 'U' => some 8
  | _ => none

/-- The character with a number of digits to base sixteen. -/
def numbered? (digits : List Char) : Option Char := do
  let code ← digitsOf? 16 digits
  if code.isValidChar then some (Char.ofNat code) else none

/-- Reads characters in quotes up to a quote or a gap. Gives the text, what follows it, and whether it ends
with an escaped line break. -/
def quotedWord? (quote : Char) : Nat → List Char → List Char → Option (List Char × List Char × Bool)
  | 0, text, rest => some (text, rest, false)
  | _ + 1, text, [] => some (text, [], false)
  | fuel + 1, text, c :: rest =>
    if isGap c then some (text, c :: rest, false)
    else if c = quote then
      match rest with
      | '\'' :: more =>
        if quote = '\'' then quotedWord? quote fuel (text ++ ['\'']) more
        else some (text, c :: rest, false)
      | _ => some (text, c :: rest, false)
    else if c = '\\' ∧ quote = '"' then
      match rest with
      | [] => none
      | d :: more =>
        if isBreak d then some (text, rest, true)
        else
          match escapeDigits? d with
          | some count =>
            if (more.take count).length < count then none
            else (numbered? (more.take count)).bind fun e =>
              quotedWord? quote fuel (text ++ [e]) (more.drop count)
          | none => (escape? d).bind fun e => quotedWord? quote fuel (text ++ [e]) more
    else quotedWord? quote fuel (text ++ [c]) rest

/-- Reads on in a scalar in quotes, up to the closing one. -/
def quoted? (quote : Char) : Nat → List Char → Cursor → Option (String × Cursor)
  | 0, _, _ => none
  | fuel + 1, text, cursor =>
    if cursor.atDocumentMark || cursor.rest.isEmpty then none
    else
      match quotedWord? quote cursor.rest.length text cursor.rest with
      | none => none
      | some (text, rest, joined) =>
        let cursor := cursor.advance (cursor.rest.length - rest.length)
        let cursor := if joined then cursor.lineBreak.2 else cursor
        if cursor.rest.head? = some quote then some (String.ofList text, cursor.advance 1)
        else
          match gap? 0 cursor.rest.length { broken := joined } cursor with
          | none => none
          | some (gap, cursor) => quoted? quote fuel (text ++ gap.text) cursor

/-! ## Blocks of lines -/

/-- What happens to the line breaks at the end of a block. -/
inductive Chomping where
  /-- One stays. -/
  | clip
  /-- None stays. -/
  | strip
  /-- All stay. -/
  | keep
  deriving DecidableEq, Repr, Inhabited

/-- How a chomping is written. -/
def chomping? : Char → Option Chomping
  | '-' => some .strip
  | '+' => some .keep
  | _ => none

/-- The indentation that a block states. -/
def stated? (c : Char) : Option Nat :=
  if c.isDigit then some (c.toNat - '0'.toNat) else none

/-- Reads the chomping and the stated indentation of a block; an indentation of zero is refused. -/
def blockHeader? (cursor : Cursor) : Option (Chomping × Option Nat × Cursor) :=
  let check (chomping : Chomping) (indent : Option Nat) (count : Nat) :=
    if indent = some 0 then none else some (chomping, indent, cursor.advance count)
  let c := cursor.rest.head?
  let d := (cursor.rest.drop 1).head?
  match c.bind chomping?, c.bind stated? with
  | some chomping, _ =>
    match d.bind stated? with
    | some indent => check chomping (some indent) 2
    | none => check chomping none 1
  | none, some indent =>
    match d.bind chomping? with
    | some chomping => check chomping (some indent) 2
    | none => check .clip (some indent) 1
  | none, none => check .clip none 0

/-- Passes the indentation of a line and the empty lines before it, while the indentation may be unknown.
Gives the line breaks and the widest indentation met. -/
def blockBreaks? (indent : Option Nat) :
    Nat → Nat → List Char → Cursor → Option (List Char × Nat × Cursor)
  | 0, widest, text, cursor => some (text, widest, cursor)
  | fuel + 1, widest, text, cursor =>
    let spaces := (cursor.rest.takeWhile (· = ' ')).length
    let cursor := cursor.advance (match indent with
      | none => spaces
      | some column => min spaces (column - cursor.column))
    let widest := max widest cursor.column
    match cursor.rest with
    | [] => some (text, widest, cursor)
    | c :: _ =>
      if c = '\t' ∧ indent.all (cursor.column < ·) then none
      else if isBreak c then
        let (ended, cursor) := cursor.lineBreak
        blockBreaks? indent fuel widest (text ++ ended) cursor
      else some (text, widest, cursor)

/-- What has been read of a block. -/
structure Block where
  text : List Char := []
  /-- The end of the last line. -/
  ended : List Char := []
  /-- The ends of the empty lines behind it. -/
  empty : List Char := []
  /-- Did the last line start with a blank? -/
  blank : Bool := false

/-- Reads the lines of a block at an indentation. Lines that start with a blank are not folded. -/
def blockLines? (literal : Bool) (indent : Nat) : Nat → Block → Cursor → Option (Block × Cursor)
  | 0, block, cursor => some (block, cursor)
  | fuel + 1, block, cursor =>
    match cursor.rest with
    | [] => some (block, cursor)
    | c :: _ =>
      if cursor.column ≠ indent then some (block, cursor)
      else
        let folds := !literal && block.ended = ['\n'] && !block.blank && !isBlank c
        let joint := if folds then (if block.empty.isEmpty then [' '] else []) else block.ended
        let line := cursor.rest.takeWhile (!isBreak ·)
        let (ended, cursor) := (cursor.advance line.length).lineBreak
        match blockBreaks? (some indent) (cursor.rest.length + 1) 0 [] cursor with
        | none => none
        | some (empty, _, cursor) =>
          let text := block.text ++ joint ++ block.empty ++ line
          blockLines? literal indent fuel { text, ended, empty, blank := isBlank c } cursor

/-- Reads a block behind its indicator. Its lines are indented more than `parent`. -/
def block? (literal : Bool) (parent : Int) (cursor : Cursor) : Option (String × Cursor) := do
  let (chomping, stated, cursor) ← blockHeader? cursor
  let cursor ← cursor.endLine?
  let known := stated.map fun width => (max parent 0).toNat + width
  let (empty, widest, cursor) ← blockBreaks? known (cursor.rest.length + 1) 0 [] cursor
  let indent := known.getD (max widest (max (parent + 1).toNat 1))
  let (block, cursor) ← blockLines? literal indent (cursor.rest.length + 1) { empty } cursor
  let ending := match chomping with
    | .strip => []
    | .clip => block.ended
    | .keep => block.ended ++ block.empty
  return (String.ofList (block.text ++ ending), cursor)

end Harvest.Yaml

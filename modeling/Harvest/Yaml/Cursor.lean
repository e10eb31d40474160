/-! A place in the text of a document. Indentation carries meaning there, so the place knows its column. -/

namespace Harvest.Yaml

/-- Is a character a space or a tab? -/
def isBlank (c : Char) : Bool :=
  c = ' ' || c = '\t'

/-- Does a character end a line? -/
def isBreak (c : Char) : Bool :=
  c = '\n' || c = '\r' || c = '\u0085' || c = '\u2028' || c = '\u2029'

/-- Does a character end a word? -/
def isGap (c : Char) : Bool :=
  isBlank c || isBreak c

/-- Do no more characters of a word follow? -/
def endsWord : List Char → Bool
  | [] => true
  | c :: _ => isGap c

/-- May a character be part of a name? -/
def isNameChar (c : Char) : Bool :=
  c.isAlphanum || c = '_' || c = '-'

/-- May a character occur in a document at all? -/
def isAllowed (c : Char) : Bool :=
  c = '\t' || c = '\n' || c = '\r' || c = '\u0085' || (' ' ≤ c && c ≤ '~') ||
    ('\u00a0' ≤ c && c ≤ '\ufffd') || 0x10000 ≤ c.toNat

/-- A place in a text. -/
structure Cursor where
  /-- The characters that follow. -/
  rest : List Char
  /-- The characters passed so far. -/
  index : Nat := 0
  line : Nat := 0
  /-- The characters passed so far on the line. -/
  column : Nat := 0
  deriving Repr, Inhabited

namespace Cursor

/-- Passes a number of characters of one line. -/
def advance (cursor : Cursor) (count : Nat) : Cursor :=
  { cursor with
    rest := cursor.rest.drop count
    index := cursor.index + count
    column := cursor.column + count }

/-- Passes the characters of one line for which `p` holds. -/
def skip (cursor : Cursor) (p : Char → Bool) : Cursor :=
  cursor.advance (cursor.rest.takeWhile p).length

/-- Passes the end of a line, if it is here. The usual ends count as line feeds. -/
def lineBreak (cursor : Cursor) : List Char × Cursor :=
  let next (count : Nat) : Cursor :=
    { cursor with
      rest := cursor.rest.drop count
      index := cursor.index + count
      line := cursor.line + 1
      column := 0 }
  match cursor.rest with
  | '\r' :: '\n' :: _ => (['\n'], next 2)
  | c :: _ =>
    if c = '\u2028' ∨ c = '\u2029' then ([c], next 1)
    else if isBreak c then (['\n'], next 1)
    else ([], cursor)
  | [] => ([], cursor)

/-- Does a line of three equal characters start here, alone or with more words behind it? -/
def atMark (cursor : Cursor) (c : Char) : Bool :=
  cursor.column = 0 && cursor.rest.take 3 == [c, c, c] && endsWord (cursor.rest.drop 3)

/-- Does a line start here that separates documents? -/
def atDocumentMark (cursor : Cursor) : Bool :=
  cursor.atMark '-' || cursor.atMark '.'

/-- Passes blanks and a comment. -/
def skipComment (cursor : Cursor) : Cursor :=
  let cursor := cursor.skip isBlank
  match cursor.rest with
  | '#' :: _ => cursor.skip (!isBreak ·)
  | _ => cursor

/-- Passes what may end a line besides its content; anything else is refused. -/
def endLine? (cursor : Cursor) : Option Cursor :=
  let cursor := cursor.skipComment
  match cursor.rest with
  | [] => some cursor
  | c :: _ => if isBreak c then some cursor.lineBreak.2 else none

end Cursor

end Harvest.Yaml

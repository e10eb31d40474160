import Harvest.Json.Printer
import Harvest.Yaml.Cursor
import Harvest.Yaml.Kind

/-! Writing documents with one member or item a line. A text is written plain where it reads back as that
text; otherwise it is quoted, or written line by line if it has several lines. -/

namespace Harvest.Yaml

/-! ## How a text may be written -/

/-- May a character be written as it is? -/
def isPrintable (c : Char) : Bool :=
  c = '\n' || (' ' ≤ c && c ≤ '~') || ('\u00a0' ≤ c && c ≤ '\ufffd' && c ≠ '\ufeff') || 0x10000 ≤ c.toNat

/-- The characters that cannot start a plain text. -/
def isLeadingIndicator (c : Char) : Bool :=
  "#,[]\x7b\x7d&*!|>'\"%@\x60".toList.contains c

/-- Does structure hide in a text, if it were written plain? `before` is the character before it. -/
def hidesStructure (before : Char) : List Char → Bool
  | [] => false
  | c :: rest =>
    (c = ':' && endsWord rest) || (c = '#' && isGap before) || hidesStructure c rest

/-- Would a text start like structure, if it were written plain? -/
def startsStructure (text : List Char) : Bool :=
  text.take 3 == ['-', '-', '-'] || text.take 3 == ['.', '.', '.'] ||
    match text with
    | c :: rest => isLeadingIndicator c || ((c = '-' || c = '?') && endsWord rest)
    | [] => false

/-- Does a line break follow a space? -/
def hasSpaceBeforeBreak : List Char → Bool
  | ' ' :: c :: rest => isBreak c || hasSpaceBeforeBreak (c :: rest)
  | _ :: rest => hasSpaceBeforeBreak rest
  | [] => false

/-- Does a space follow a line break? -/
def hasSpaceAfterBreak : List Char → Bool
  | c :: d :: rest => (isBreak c && d = ' ') || hasSpaceAfterBreak (d :: rest)
  | _ => false

/-- The ways to write a text. -/
inductive Style where
  | plain
  | single
  | double
  | literal
  deriving DecidableEq, Repr, Inhabited

/-- The way to write a text: the first one of plain and single quotes that keeps it, or line by line if it
has several lines, unless only escapes keep it. -/
def styleOf (text : String) : Style :=
  let cs := text.toList
  let escapes := cs.any (!isPrintable ·) || hasSpaceBeforeBreak cs
  if cs.contains '\n' then (if escapes || cs.getLast? = some ' ' then .double else .literal)
  else if !isText text || isPadded cs then .single
  else
    let edge (c : Option Char) : Bool := c.any fun c => c = ' ' || isBreak c
    let isPlain := !escapes && !cs.any isBreak && !edge cs.head? && !edge cs.getLast?
      && !startsStructure cs && !hidesStructure 'x' cs
    if isPlain then .plain
    else if escapes || hasSpaceAfterBreak cs then .double
    else .single

/-! ## Texts -/

/-- So many spaces. -/
def spaces (count : Nat) : String :=
  String.ofList (List.replicate count ' ')

/-- The characters inside single quotes: a quote is doubled, and a line break is followed by indentation. -/
def singleBody (indent : String) : List Char → List Char
  | [] => []
  | c :: rest =>
    if c = '\'' then c :: c :: singleBody indent rest
    else if isBreak c && !rest.head?.any isBreak then c :: indent.toList ++ singleBody indent rest
    else c :: singleBody indent rest

/-- A number with at least so many digits to base sixteen. -/
def hex (width n : Nat) : List Char :=
  let digits := (Nat.toDigits 16 n).map Char.toUpper
  List.replicate (width - digits.length) '0' ++ digits

/-- A character inside double quotes. -/
def doubleChar (c : Char) : List Char :=
  let escapes : List (Char × Char) :=
    [('\x00', '0'), ('\x07', 'a'), ('\x08', 'b'), ('\t', 't'), ('\n', 'n'), ('\x0b', 'v'), ('\x0c', 'f'),
      ('\r', 'r'), ('\x1b', 'e'), ('"', '"'), ('\\', '\\'), ('\u0085', 'N'), ('\u00a0', '_'),
      ('\u2028', 'L'), ('\u2029', 'P')]
  if isPrintable c && !isBreak c && c ≠ '"' && c ≠ '\\' then [c]
  else
    match escapes.lookup c with
    | some letter => ['\\', letter]
    | none =>
      if c.toNat ≤ 0xFF then '\\' :: 'x' :: hex 2 c.toNat
      else if c.toNat ≤ 0xFFFF then '\\' :: 'u' :: hex 4 c.toNat
      else '\\' :: 'U' :: hex 8 c.toNat

/-- The mark before a text that is written line by line: its indentation if the text starts with a gap, and
how many line breaks at its end count. -/
def literalMark (text : List Char) : String :=
  let indent := if text.head?.any fun c => c = ' ' || isBreak c then "2" else ""
  let chomping :=
    match text.reverse with
    | [] => "-"
    | [c] => if isBreak c then "+" else "-"
    | c :: d :: _ => if !isBreak c then "-" else if isBreak d then "+" else ""
  "|" ++ indent ++ chomping

/-- The lines of a text, each at the given indentation unless it is empty. -/
def literalLines (indent : String) (text : List Char) : String :=
  String.join ((Text.splitAtChar '\n' text).map fun line =>
    if line.isEmpty then "\n" else "\n" ++ indent ++ String.ofList line)

/-- A text at an indentation. A line break at its end belongs to the text. -/
def renderText (indent : Nat) (text : String) : String :=
  match styleOf text with
  | .plain => text
  | .single => "'" ++ String.ofList (singleBody (spaces indent) text.toList) ++ "'"
  | .double => "\"" ++ String.ofList (text.toList.flatMap doubleChar) ++ "\""
  | .literal =>
    let lines := literalLines (spaces indent) text.toList
    -- The line break after the whole text also ends its last line.
    literalMark text.toList ++ (if lines.toList.getLast? = some '\n' then String.ofList lines.toList.dropLast
      else lines)

/-! ## Documents -/

/-- A collection whose first line goes on behind the mark of an item. -/
def onLine (column : Nat) (text : String) : String :=
  String.ofList (text.toList.drop (column + 1))

mutual

/-- What is written behind the name of a member whose own lines start at a column. -/
def renderValue (column : Nat) : Json → String
  | .object (member :: members) => "\n" ++ renderMembers (column + 2) (member :: members)
  | .array (item :: items) => "\n" ++ renderItems column (item :: items)
  | .object [] => " \x7b\x7d\n"
  | .array [] => " []\n"
  | .string text => " " ++ renderText (column + 2) text ++ "\n"
  | other => " " ++ other.render ++ "\n"

/-- The items of a list, one a line. A collection starts on the line of its item. -/
def renderItems (column : Nat) : List Json → String
  | [] => ""
  | item :: rest =>
    let text := match item with
      | .object (member :: members) => onLine column (renderMembers (column + 2) (member :: members))
      | .array (first :: others) => onLine column (renderItems (column + 2) (first :: others))
      | other => renderValue column other
    spaces column ++ "-" ++ text ++ renderItems column rest

/-- The members of an object, one a line. -/
def renderMembers (column : Nat) : List (String × Json) → String
  | [] => ""
  | (name, value) :: rest =>
    spaces column ++ renderText (column + 2) name ++ ":" ++ renderValue column value
      ++ renderMembers column rest

end

/-- The text of a document that is an object. -/
def render (members : Fields) : String :=
  renderMembers 0 members

end Harvest.Yaml

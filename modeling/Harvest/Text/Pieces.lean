/-! Cutting, splitting and replacing at the occurrences of a text, found left to right without overlap. -/

namespace Harvest.Text

/-- The rest of a text after a given beginning. -/
def after? : List Char → List Char → Option (List Char)
  | [], s => some s
  | _ :: _, [] => none
  | p :: ps, c :: s => if p = c then after? ps s else none

/-- Does the text hold `part` somewhere? -/
def holds (part : List Char) : List Char → Bool
  | [] => part.isEmpty
  | c :: s => part.isPrefixOf (c :: s) || holds part s

/-- The texts before and after the first character equal to `sep`. -/
def cutAt? (sep : Char) : List Char → Option (List Char × List Char)
  | [] => none
  | c :: s => if c = sep then some ([], s) else (cutAt? sep s).map fun (before, rest) => (c :: before, rest)

/-- The texts before and after the last character equal to `sep`. -/
def cutAtLast? (sep : Char) (s : List Char) : Option (List Char × List Char) :=
  (cutAt? sep s.reverse).map fun (rest, before) => (before.reverse, rest.reverse)

/-- The pieces of a text between the characters equal to `sep`, one more than there are of these. -/
def splitAtChar (sep : Char) : List Char → List (List Char)
  | [] => [[]]
  | c :: s =>
    if c = sep then [] :: splitAtChar sep s
    else match splitAtChar sep s with
      | [] => [[c]]
      | piece :: pieces => (c :: piece) :: pieces

/-- The worker of `split`: `skip` characters of an occurrence are still to be passed over, and
`piece` is the reversed beginning of the piece being read. -/
def splitGo (sep : List Char) : Nat → List Char → List Char → List (List Char)
  | _, piece, [] => [piece.reverse]
  | skip + 1, piece, _ :: s => splitGo sep skip piece s
  | 0, piece, c :: s =>
    if sep.isPrefixOf (c :: s) then piece.reverse :: splitGo sep (sep.length - 1) [] s
    else splitGo sep 0 (c :: piece) s

/-- The pieces of a text between the occurrences of `sep`. The empty separator occurs before, between
and after all characters. -/
def split (sep s : List Char) : List (List Char) :=
  if sep.isEmpty then [] :: s.map ([·]) ++ [[]] else splitGo sep 0 [] s

/-- Puts `new` in place of every occurrence of `old`; without a text to look for, nothing changes. -/
def replace (old new s : List Char) : List Char :=
  if old.isEmpty then s else List.intercalate new (split old s)

/-- Puts `new` in place of every occurrence of `old`. -/
def replaceAll (old new s : String) : String :=
  String.ofList (replace old.toList new.toList s.toList)

/-- Does a string hold another somewhere? -/
def contains (part s : String) : Bool :=
  holds part.toList s.toList

/-- The strings joined with `sep` between neighbours. -/
def join (sep : String) (pieces : List String) : String :=
  String.intercalate sep pieces

/-- Lower case for the letters A to Z. -/
def lower (s : String) : String :=
  String.ofList (s.toList.map Char.toLower)

/-- Equal up to the case of the letters A to Z. -/
def sameLetters (s t : List Char) : Bool :=
  s.map Char.toLower == t.map Char.toLower

/-- The number of bytes of a text in UTF-8. -/
def size (s : List Char) : Nat :=
  s.foldr (fun c size => c.utf8Size + size) 0

/-- The UTF-8 bytes of a character. -/
def charBytes (c : Char) : List Nat :=
  let n := c.toNat
  if n < 0x80 then [n]
  else if n < 0x800 then [0xC0 + n / 64, 0x80 + n % 64]
  else if n < 0x10000 then [0xE0 + n / 4096, 0x80 + n / 64 % 64, 0x80 + n % 64]
  else [0xF0 + n / 262144, 0x80 + n / 4096 % 64, 0x80 + n / 64 % 64, 0x80 + n % 64]

/-- The UTF-8 bytes of a text. -/
def bytes (s : List Char) : List Nat :=
  s.flatMap charBytes

end Harvest.Text

/-! White space is the Unicode `White_Space` property, and trimming removes it from both ends. -/

namespace Harvest.Text

/-- The code points with the Unicode `White_Space` property. -/
def isBlank (c : Char) : Bool :=
  let n := c.toNat
  (9 ≤ n && n ≤ 13) || n == 0x20 || n == 0x85 || n == 0xA0 || n == 0x1680 ||
    (0x2000 ≤ n && n ≤ 0x200A) || n == 0x2028 || n == 0x2029 || n == 0x202F || n == 0x205F ||
    n == 0x3000

/-- Drops the characters at the end of a text that satisfy `p`. -/
def dropRightWhile (p : Char → Bool) (s : List Char) : List Char :=
  (s.reverse.dropWhile p).reverse

/-- Drops white space from both ends. -/
def trimChars (s : List Char) : List Char :=
  dropRightWhile isBlank (s.dropWhile isBlank)

/-- Drops white space from both ends. -/
def trim (s : String) : String :=
  String.ofList (trimChars s.toList)

/-- Nothing but white space. -/
def allBlank (s : List Char) : Bool :=
  s.all isBlank

end Harvest.Text

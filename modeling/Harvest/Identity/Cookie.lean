import Harvest.Text.Blank
import Harvest.Text.Pieces

/-! Cookies: pairs of a name and a value, written one behind the other with semicolons between them. -/

namespace Harvest

/-- Names with their values, in the order in which they are sent. -/
abbrev Cookies := List (String × String)

namespace Cookies

/-- A name and a value around the first equals sign, white space at their ends removed. -/
def pair? (s : List Char) : Option (String × String) :=
  (Text.cutAt? '=' s).map fun (name, value) =>
    (String.ofList (Text.trimChars name), String.ofList (Text.trimChars value))

/-- The pair that a server sets: what stands before the first semicolon, if it has a name. -/
def setPair? (header : String) : Option (String × String) :=
  (pair? (Text.trimChars (header.toList.takeWhile (· ≠ ';')))).filter fun found => found.1 ≠ ""

/-- The pairs of a written cookie. -/
def parse (cookie : String) : Cookies :=
  (Text.splitAtChar ';' cookie.toList).filterMap fun piece => pair? (Text.trimChars piece)

/-- The written form of a pair. -/
def pairText (pair : String × String) : String :=
  pair.1 ++ "=" ++ pair.2

/-- The written form of pairs. -/
def render (cookies : Cookies) : String :=
  Text.join "; " (cookies.map pairText)

/-- Gives a name a value: in its place if the name is present, else at the end. -/
def set (name value : String) : Cookies → Cookies
  | [] => [(name, value)]
  | (other, old) :: rest =>
    if other = name then (name, value) :: rest else (other, old) :: set name value rest

/-- The cookie of what a server sets, as it is. -/
def ofHeaders (headers : List String) : String :=
  render (headers.filterMap setPair?)

/-- The written cookie after a server has set the given headers. Without a pair among them it stays as it
is. -/
def merge (cookie : String) (headers : List String) : String :=
  match headers.filterMap setPair? with
  | [] => cookie
  | pairs => render (pairs.foldl (fun cookies (name, value) => cookies.set name value) (parse cookie))

end Cookies

end Harvest

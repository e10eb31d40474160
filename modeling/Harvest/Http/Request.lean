import Harvest.Text.Utf8

/-! Requests to a server: a method, a target with a path and a query, and the parts of the header that matter
to the job service. -/

namespace Harvest.Http

/-- A request. -/
structure Request where
  method : String := "GET"
  path : String
  /-- Names and values of the query, decoded, in order. -/
  query : List (String × String) := []
  contentType : Option String := none
  /-- The site of the page that sends the request. -/
  origin : Option String := none
  body : String := ""
  deriving DecidableEq, Repr, Inhabited

/-- A part of a query: a plus sign stands for a space, and escapes for bytes. -/
def decodePart (s : List Char) : String :=
  let spaced := s.map fun c => if c = '+' then ' ' else c
  String.ofList (Text.ofBytes (Text.percentDecode (Text.bytes spaced)))

/-- The names and values of a query. -/
def decodeQuery (s : List Char) : List (String × String) :=
  ((Text.splitAtChar '&' s).filter (!·.isEmpty)).map fun piece =>
    match Text.cutAt? '=' piece with
    | some (name, value) => (decodePart name, decodePart value)
    | none => (decodePart piece, "")

/-- May the character stand in a path as it is? -/
def inPath (c : Char) : Bool :=
  let n := c.toNat
  n = 0x21 || n = 0x22 || (0x24 ≤ n && n ≤ 0x3B) || n = 0x3D || (0x40 ≤ n && n ≤ 0x5F) ||
    (0x61 ≤ n && n ≤ 0x7E) || 0x80 ≤ n

/-- May the character stand in a query as it is? -/
def inQuery (c : Char) : Bool :=
  let n := c.toNat
  n = 0x21 || (0x24 ≤ n && n ≤ 0x3B) || n = 0x3D || (0x3F ≤ n && n ≤ 0x7E) || 0x80 ≤ n

/-- May the character stand in the name of a host as it is? -/
def inAuthority (c : Char) : Bool :=
  c.isAlphanum || "!$%&'()*+,-.:;=@[]_~".toList.contains c

/-- Path and query of a target that begins with its path. A fragment is left out. -/
def localTarget? (s : List Char) : Option (String × List (String × String)) :=
  let s := s.takeWhile (· ≠ '#')
  let path := s.takeWhile (· ≠ '?')
  let query := (s.dropWhile (· ≠ '?')).drop 1
  if path.all inPath && query.all inQuery then some (String.ofList path, decodeQuery query) else none

/-- What follows a scheme and the two slashes after it. -/
def behindScheme? (s : List Char) : Option (List Char) :=
  let scheme := s.takeWhile fun c => c.isAlphanum || c = '+' || c = '-' || c = '.'
  if scheme.isEmpty then none else Text.after? "://".toList (s.drop scheme.length)

/-- Path and query of any target. -/
def target? (source : String) : Option (String × List (String × String)) :=
  match source.toList with
  | [] => none
  | ['*'] => some ("*", [])
  | '/' :: rest => localTarget? ('/' :: rest)
  | s =>
    let ends (c : Char) : Bool := c = '/' || c = '?' || c = '#'
    match behindScheme? s with
    | some behind =>
      let host := behind.takeWhile fun c => !ends c
      let rest := behind.dropWhile fun c => !ends c
      if host.isEmpty || !host.all inAuthority then none
      else localTarget? (if rest.head? = some '/' then rest else '/' :: rest)
    | none => if s.all inAuthority then some ("", []) else none

/-- May the character stand in the name of a method? -/
def inMethod (c : Char) : Bool :=
  c.isAlphanum || "!#$%&'*+-.^_|~".toList.contains c || c.toNat = 0x60

/-- Is the text the name of a method? -/
def isMethod (method : String) : Bool :=
  method ≠ "" && method.toList.all inMethod

/-- May the text be the value of a header? -/
def isHeaderValue (value : String) : Bool :=
  value.toList.all fun c => (0x20 ≤ c.toNat && c.toNat ≠ 0x7F) || c = '\t'

/-- Does the header announce a body in the document format? -/
def announcesJson (contentType : String) : Bool :=
  let essence := (Text.lower contentType).toList.takeWhile (· ≠ ';')
  match Text.cutAt? '/' essence with
  | some (kind, format) =>
    kind == "application".toList && format.all inMethod &&
      (format == "json".toList ||
        (match Text.cutAtLast? '+' format with
          | some (name, suffix) => !name.isEmpty && suffix == "json".toList
          | none => false))
  | none => false

end Harvest.Http

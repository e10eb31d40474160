import Harvest.Text.Blank
import Harvest.Url.Basic

/-! Reading a locator. A text without a scheme is none, and so is one with a host or a port that cannot be. -/

namespace Harvest.Url

/-- Characters that are dropped at both ends. -/
def isMargin (c : Char) : Bool :=
  c.toNat ≤ 0x20

/-- Characters that are dropped wherever they stand. -/
def isBreak (c : Char) : Bool :=
  c = '\t' || c = '\n' || c = '\r'

/-- The text without its margins and without line breaks and tabs. -/
def stripped (s : List Char) : List Char :=
  (Text.dropRightWhile isMargin (s.dropWhile isMargin)).filter fun c => !isBreak c

/-- May the character stand in a scheme behind its first letter? -/
def insideScheme (c : Char) : Bool :=
  c.isAlphanum || c = '+' || c = '-' || c = '.'

/-- Cuts off the scheme and the colon after it. -/
def scheme? (s : List Char) : Option (String × List Char) :=
  match s with
  | first :: _ =>
    if !first.isAlpha then none
    else match s.dropWhile insideScheme with
      | ':' :: rest => some (Text.lower (String.ofList (s.takeWhile insideScheme)), rest)
      | _ => none
  | [] => none

/-- Does the character end the part of a locator that names the host? -/
def endsAuthority (network : Bool) (c : Char) : Bool :=
  c = '/' || c = '?' || c = '#' || (network && c = '\\')

/-- The host and what follows it: up to a colon outside brackets. -/
def splitHost : Bool → List Char → List Char × List Char
  | _, [] => ([], [])
  | inside, c :: rest =>
    if c = ':' && !inside then ([], c :: rest)
    else
      let inside := if c = '[' then true else if c = ']' then false else inside
      let (host, after) := splitHost inside rest
      (c :: host, after)

/-- The port after the host; none if it is the scheme's own. The text ends at a character that is no digit,
which must be one that ends the host part too. -/
def port? (scheme : String) : List Char → Option (Option Nat)
  | [] => some none
  | ':' :: rest =>
    let digits := rest.takeWhile Decimal.isDigit
    match rest.dropWhile Decimal.isDigit with
    | [] => number digits
    | c :: _ => if c = '\\' then number digits else none
  | _ => none
where
  /-- The number of digits, below the limit of a port. -/
  number (digits : List Char) : Option (Option Nat) :=
    let n := Decimal.ofDigits 0 digits
    if n > 65535 then none
    else some (if digits.isEmpty || ownPort? scheme = some n then none else some n)

/-- The path up to a query or a fragment. -/
def pathOf (s : List Char) : String :=
  String.ofList (s.takeWhile fun c => c ≠ '?' && c ≠ '#')

/-- Reads the part behind the two slashes. A name and password in front of the host are passed over. -/
def authority? (scheme : String) (s : List Char) : Option Url := do
  let network := isNetwork scheme
  let part := s.takeWhile fun c => !endsAuthority network c
  let rest := s.dropWhile fun c => !endsAuthority network c
  let (credentials, target) := match Text.cutAtLast? '@' part with
    | some (before, after) => (some before, after)
    | none => (none, part)
  if credentials = some [] && target.isEmpty && !rest.isEmpty then none
  else
    let (name, tail) := splitHost false target
    if network && name.isEmpty then none
    else
      let host ← if network then Host.parse? name else Host.parseOpaque? name
      if host = .domain "" && !tail.isEmpty then none
      else
        let port ← port? scheme tail
        let named := if host = .domain "" then none else some host
        if named.isNone && credentials.any (!·.isEmpty) then none
        else return { scheme, host := named, port, path := pathOf rest }

/-- Is the character a slash or a backslash? -/
def isSlash (c : Char) : Bool :=
  c = '/' || c = '\\'

/-- Is the text the letter of a drive? -/
def isDrive : List Char → Bool
  | [letter, mark] => letter.isAlpha && (mark = ':' || mark = '|')
  | _ => false

/-- Reads what follows the scheme of a file. -/
def file? (s : List Char) : Option Url :=
  let plain : Url := { scheme := "file", host := none, port := none, path := pathOf s }
  match s with
  | a :: b :: rest =>
    if isSlash a && isSlash b then
      let name := rest.takeWhile fun c => !endsAuthority true c
      if name.isEmpty || isDrive name then some { plain with path := pathOf rest }
      else
        let after := rest.dropWhile fun c => !endsAuthority true c
        -- A path that begins with the letter of a drive leaves no room for a host.
        let first := (after.drop 1).takeWhile fun c => !endsAuthority true c
        (Host.parse? name).map fun host =>
          { plain with
            host := if host = .domain "localhost" || isDrive first then none else some host
            path := pathOf after }
    else some plain
  | _ => some plain

/-- Reads a locator. -/
def parse? (source : String) : Option Url := do
  let (scheme, rest) ← scheme? (stripped source.toList)
  if scheme = "file" then file? rest
  else if isNetwork scheme then authority? scheme (rest.dropWhile isSlash)
  else match rest with
    | '/' :: '/' :: behind => authority? scheme behind
    | _ => some { scheme, host := none, port := none, path := pathOf rest }

/-- The origin of a locator in text: scheme, host and any port that is not the scheme's own. A locator wrapped
in another has the origin of the inner one, as far as `fuel` lasts. -/
def originGo : Nat → Url → String
  | 0, _ => "null"
  | fuel + 1, url =>
    if url.scheme = "blob" then
      match parse? url.path with
      | some inner => originGo fuel inner
      | none => "null"
    else match url.host with
      | none => "null"
      | some host =>
        if isNetwork url.scheme then
          url.scheme ++ "://" ++ host.text ++
            (match url.port with
              | some port => ":" ++ toString port
              | none => "")
        else "null"

/-- The origin of a locator in text; `null` where there is none. -/
def origin (url : Url) : String :=
  originGo (url.path.length + 1) url

end Harvest.Url

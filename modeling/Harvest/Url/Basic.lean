import Harvest.Url.Host

/-! Locators of resources, as far as it matters whom they address. -/

namespace Harvest

/-- The part of a locator that says where a resource lives. -/
structure Url where
  /-- In small letters. -/
  scheme : String
  host : Option Host
  /-- None where the scheme's own port is meant. -/
  port : Option Nat
  /-- What follows, up to a query or a fragment. -/
  path : String
  deriving DecidableEq, Repr, Inhabited

namespace Url

/-- The port that a scheme uses when none is given. -/
def ownPort? (scheme : String) : Option Nat :=
  match scheme with
  | "http" => some 80
  | "ws" => some 80
  | "https" => some 443
  | "wss" => some 443
  | "ftp" => some 21
  | _ => none

/-- Is the scheme one of those with a host in the name system? Files are treated apart. -/
def isNetwork (scheme : String) : Bool :=
  (ownPort? scheme).isSome

end Url

end Harvest

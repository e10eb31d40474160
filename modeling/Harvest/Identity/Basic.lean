import Harvest.Identity.Cookie
import Harvest.Settings.Basic

/-! The identity behind which a crawl hides: a pool of proxies, the first of which is in use, a jar of cookies
to take up later, and the cookie in use. Failures change it, but not too often. -/

namespace Harvest

/-- What a crawl shows of itself. -/
structure Identity where
  /-- The proxies; the first one is in use. -/
  pool : List String := []
  /-- Cookies to take up later. -/
  jar : List String := []
  /-- The written cookie in use. -/
  cookie : String := ""
  /-- Failures since the last time a change was allowed. -/
  failures : Nat := 0
  /-- The last time a change was allowed, in milliseconds. -/
  rotatedAt : Option Nat := none
  deriving DecidableEq, Repr, Inhabited

namespace Identity

/-- The identity with a new pool and jar. -/
def replace (identity : Identity) (pool jar : List String) : Identity :=
  { identity with pool, jar }

/-- The identity after a server has set cookies. -/
def mergeCookies (identity : Identity) (headers : List String) : Identity :=
  { identity with cookie := Cookies.merge identity.cookie headers }

/-- Has the identity been kept for long enough? -/
def dwellPassed (settings : ProxySettings) (now : Nat) (identity : Identity) : Bool :=
  match identity.rotatedAt with
  | none => true
  | some last => settings.dwellMillis ≤ now - last

/-- The identity without its first proxy; the last one stays. -/
def dropProxy (identity : Identity) : Identity :=
  match identity.pool with
  | _ :: second :: rest => { identity with pool := second :: rest }
  | _ => identity

/-- The identity with the first cookie of the jar in use. -/
def takeCookie (identity : Identity) : Identity :=
  match identity.jar with
  | cookie :: rest => { identity with cookie, jar := rest }
  | [] => identity

/-- Counts a failure, and changes proxy and cookie as asked if the identity has been kept for long enough or
the failures are too many. Tells whether anything changed. -/
def rotate (settings : ProxySettings) (now : Nat) (proxy cookie : Bool) (identity : Identity) :
    Bool × Identity :=
  let failures := identity.failures + 1
  if !identity.dwellPassed settings now && failures < settings.failureThreshold then
    (false, { identity with failures })
  else
    let dropped := proxy && 1 < identity.pool.length
    let taken := cookie && !identity.jar.isEmpty
    let changed := if dropped then identity.dropProxy else identity
    let changed := if taken then changed.takeCookie else changed
    (dropped || taken, { changed with failures := 0, rotatedAt := some now })

/-- What a request goes out through. -/
inductive Exit where
  /-- No proxy is wanted. -/
  | direct
  | proxy (url : String)
  /-- The pool is empty; the request waits for a refresh. -/
  | waiting
  deriving DecidableEq, Repr, Inhabited

/-- What the next request goes out through. -/
def exit (settings : ProxySettings) (identity : Identity) : Exit :=
  if settings.enabled then
    match identity.pool with
    | proxy :: _ => .proxy proxy
    | [] => .waiting
  else .direct

/-- The entries of a list of proxies, one on a line. -/
def parseList (body : String) : List String :=
  ((Text.splitAtChar '\n' body.toList).map fun line => String.ofList (Text.trimChars line)).filter (· ≠ "")

/-- Why the proxies could not be refreshed. -/
inductive RefreshError where
  /-- The list could not be fetched. -/
  | unreachable (listUrl : String)
  /-- The list was refused. -/
  | refused
  deriving DecidableEq, Repr, Inhabited

/-- The wording of a cause. -/
def RefreshError.message : RefreshError → String
  | unreachable listUrl => "Failed to fetch proxy list from " ++ listUrl
  | refused => "Proxy list source returned an error"

/-- What fetching the list of proxies gave. -/
inductive ListReply where
  | unreachable
  | answered (status : Nat) (body : String)
  deriving DecidableEq, Repr, Inhabited

/-- What checking a proxy against the site gave: nothing, or the cookie headers of a reply. -/
abbrev Check := Option (List String)

/-- The cookie that a checked proxy yields, unless it is empty. -/
def cookieOf? (headers : List String) : Option String :=
  some (Cookies.ofHeaders headers) |>.filter (· ≠ "")

/-- Puts the proxies of a list that pass the check into the pool and their cookies into the jar, and gives
their number. Nothing happens while proxies are not wanted. -/
def refresh (settings : ProxySettings) (reply : ListReply) (check : String → Check) (identity : Identity) :
    Except RefreshError Nat × Identity :=
  if !settings.enabled then (.ok 0, identity)
  else match reply with
    | .unreachable => (.error (.unreachable settings.listUrl), identity)
    | .answered status body =>
      if 400 ≤ status then (.error .refused, identity)
      else
        let candidates := (parseList body).map fun entry => settings.protocol ++ "://" ++ entry
        let passed := candidates.filterMap fun candidate => (check candidate).map (candidate, ·)
        (.ok passed.length,
          identity.replace (passed.map Prod.fst) (passed.filterMap fun found => cookieOf? found.2))

end Identity

end Harvest

import Harvest.Http.Request

/-! Which sites may use the service from their pages. -/

namespace Harvest.Http

/-- The sites whose pages may read replies. -/
inductive Sharing where
  /-- All sites. -/
  | anyone
  /-- The given sites. -/
  | only (origins : List String)
  deriving DecidableEq, Repr, Inhabited

namespace Sharing

/-- The rule for configured origins: an asterisk and what could not be sent count for nothing, and without
any other origin all sites may read. -/
def ofOrigins (origins : List String) : Sharing :=
  match origins.filter fun origin => origin ≠ "*" && isHeaderValue origin with
  | [] => anyone
  | named => only named

/-- The header that lets the site of a request read the reply. -/
def originHeader (sharing : Sharing) (request : Request) : List (String × String) :=
  match sharing, request.origin with
  | anyone, _ => [("access-control-allow-origin", "*")]
  | only origins, some origin =>
    if origins.contains origin then [("access-control-allow-origin", origin)] else []
  | only _, none => []

/-- Does a page ask in advance what it may send? Such requests never reach the service. -/
def isInquiry (request : Request) : Bool :=
  request.method = "OPTIONS"

/-- The headers that say which sites may use a reply. -/
def headers (sharing : Sharing) (request : Request) : List (String × String) :=
  sharing.originHeader request ++
    if isInquiry request then
      [("access-control-allow-methods", "*"), ("access-control-allow-headers", "*")]
    else []

end Sharing

end Harvest.Http

import Harvest.Json.Printer

/-! Replies of a server. -/

namespace Harvest.Http

/-- The content of a reply. -/
inductive Body where
  | json (document : Json)
  | text (content : String)
  deriving Repr, Inhabited

/-- The content as text. -/
def Body.render : Body → String
  | json document => document.render
  | text content => content

/-- A reply. -/
structure Reply where
  status : Nat := 200
  body : Body
  deriving Repr, Inhabited

/-- A reply that says why a request was refused. -/
def Reply.refusal (status : Nat) (message : String) : Reply :=
  { status, body := .json (.object [("error", .string message)]) }

end Harvest.Http

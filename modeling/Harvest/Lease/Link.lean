import Harvest.Record

/-! Links are the pages of a rule that wait for a worker, are leased to one, or are done with. -/

namespace Harvest

/-- Where a link stands. -/
inductive LinkStatus where
  | active
  | running
  | completed
  | cancelled
  deriving DecidableEq, Repr, Inhabited

/-- The written form of a status. -/
def LinkStatus.text : LinkStatus → String
  | active => "Active"
  | running => "Running"
  | completed => "Completed"
  | cancelled => "Cancelled"

/-- One page to fetch. -/
structure Link where
  id : String
  url : String
  status : LinkStatus := .active
  /-- The worker that holds the lease, empty if there is none. -/
  worker : String := ""
  ruleId : String
  /-- The last change, in milliseconds. -/
  updated : Int
  deriving DecidableEq, Repr, Inhabited

namespace Link

/-- The names of the fields in a document, in order. -/
def fieldNames : List String :=
  ["id", "link", "status", "worker", "ruleID", "lastUpdate"]

/-- Reads a link from a document; `now` is the time of a change that is not recorded. -/
def ofJson? (now : Int) (document : Json) : Option Link := do
  let members ← Record.fields? fieldNames document
  return {
    id := ← Record.require? ["id"] Json.string? members
    url := ← Record.require? ["link"] Json.string? members
    status := ← Record.read? ["status"] .active
      (Record.choice? [("Active", LinkStatus.active), ("Running", .running), ("Completed", .completed),
        ("Cancelled", .cancelled)]) members
    worker := ← Record.read? ["worker", "scraper"] "" Json.string? members
    ruleId := ← Record.require? ["ruleID"] Json.string? members
    updated := ← Record.read? ["lastUpdate"] now Record.time? members }

/-- The document of a link. -/
def toJson (link : Link) : Json :=
  .object [
    ("id", .string link.id),
    ("link", .string link.url),
    ("status", .string link.status.text),
    ("worker", .string link.worker),
    ("ruleID", .string link.ruleId),
    ("lastUpdate", .int link.updated)]

/-- A worker is named exactly while the link is leased. -/
def isConsistent (link : Link) : Bool :=
  (link.status = .running) == (link.worker ≠ "")

end Link

end Harvest

import Harvest.Http.Reply
import Harvest.Http.Sharing
import Harvest.Lease.Operation

/-! The job service: workers ask it for rules and links and report completed links. -/

namespace Harvest.Service

open Http (Request Reply)
open Lease (Operation)

/-- Where the paths of the service begin. -/
def root : String := "/api/v1/dist"

/-- What the service is configured with. -/
structure Settings where
  /-- Rules on a page of the listing. -/
  pageSize : Nat := 100
  /-- Links leased when a worker does not say how many. -/
  batchSize : Nat := 100
  /-- Active links looked at to select a rule. -/
  sample : Nat := 100
  deriving DecidableEq, Repr, Inhabited

/-- What the service offers. -/
inductive Endpoint where
  | readRules
  | storeRule
  | leaseLinks
  | completeLinks
  deriving DecidableEq, Repr, Inhabited

/-- Where a request leads. -/
inductive Route where
  | endpoint (endpoint : Endpoint)
  /-- The path is known, but not with this method. -/
  | wrongMethod
  | nowhere
  deriving DecidableEq, Repr, Inhabited

/-- The route of a path that can be read from and written to. -/
def routeOf (method : String) (read write : Endpoint) : Route :=
  if method = "GET" ∨ method = "HEAD" then .endpoint read
  else if method = "POST" then .endpoint write
  else .wrongMethod

/-- The route of a request. -/
def route (request : Request) : Route :=
  if request.path = root ++ "/rules" then routeOf request.method .readRules .storeRule
  else if request.path = root ++ "/links" then routeOf request.method .leaseLinks .completeLinks
  else .nowhere

/-- The reply to a failed operation. -/
def failure (cause : StoreError) : Reply :=
  let status := match cause with
    | .notFound _ => 404
    | .invalidInput _ => 400
    | .backend _ => 500
    | .serialization _ => 500
  .refusal status cause.message

/-- A reply with a document. -/
def success (document : Json) : Reply :=
  { body := .json document }

/-- The value of a name in a query; a name that occurs twice is refused. -/
def parameter? (query : List (String × String)) (name : String) : Option (Option String) :=
  match query.filter (·.1 = name) with
  | [] => some none
  | [(_, value)] => some (some value)
  | _ => none

/-- The number of a name in a query. -/
def number? (query : List (String × String)) (name : String) : Option (Option Nat) := do
  match ← parameter? query name with
  | none => some none
  | some value => (Decimal.natBelow? Word.bound value.toList).map some

/-- Does the value of a parameter say yes? -/
def isSet (value : Option String) : Bool :=
  value.any fun text => Text.trim text = "1" || Text.trim text = "true"

/-- Drops an empty text. -/
def named (value : Option String) : Option String :=
  value.filter (· ≠ "")

/-- The query of a request for rules. -/
structure RulesQuery where
  ruleId : Option String
  forWorker : Bool
  page : Option Nat
  deriving DecidableEq, Repr, Inhabited

/-- Reads the query of a request for rules. -/
def RulesQuery.read? (query : List (String × String)) : Option RulesQuery := do
  return {
    ruleId := named (← parameter? query "ruleid")
    forWorker := isSet (← parameter? query "isscraper")
    page := ← number? query "page" }

/-- The query of a request for links. -/
structure LinksQuery where
  ruleId : Option String
  worker : Option String
  size : Option Nat
  deriving DecidableEq, Repr, Inhabited

/-- Reads the query of a request for links; the worker goes by two names, the first of which wins. -/
def LinksQuery.read? (query : List (String × String)) : Option LinksQuery := do
  let worker ← parameter? query "worker"
  let other ← parameter? query "scraper"
  return {
    ruleId := named (← parameter? query "ruleid")
    worker := named (worker.or other)
    size := (← number? query "size").filter (0 < ·) }

/-- The reply to a query that cannot be read. -/
def badQuery : Reply :=
  { status := 400, body := .text "Failed to deserialize query string" }

/-- The longest content that the service takes in, in bytes. -/
def contentLimit : Nat := 2 * 1024 * 1024

/-- The reply to content that is too long. -/
def tooLong : Reply :=
  .refusal 400 "Failed to buffer the request body: length limit exceeded"

/-- The value that a request carries, or the reply to one that carries none. Text after the value is passed
over. -/
def payload (read? : Json → Option α) (request : Request) : Except Reply α :=
  if !request.contentType.any Http.announcesJson then
    .error (.refusal 400 ("Expected request with \x60Content-Type: application/json\x60"))
  else if contentLimit < request.body.utf8ByteSize then
    .error tooLong
  else match Json.readFirst? request.body.toList with
    | none => .error (.refusal 400 "Failed to parse the request body as JSON")
    | some (document, _) => match read? document with
      | none => .error (.refusal 400 "Failed to deserialize the JSON body into the target type")
      | some value => .ok value

/-- The identifiers in a report of completed links. -/
def completedIds? (document : Json) : Option (List String) := do
  let members ← Record.fields? ["linkids"] document
  Record.read? ["linkids"] [] Record.texts? members

/-- Carries out a request at an endpoint. It breaks down without a reply where the page that is asked for has no
start. -/
def serve (settings : Settings) (now : Int) (shuffle : List String → List String) (request : Request) :
    Endpoint → Operation (Option Reply)
  | .readRules =>
    match RulesQuery.read? request.query with
    | none => return some badQuery
    | some query =>
      match query.ruleId with
      | some id => do return some (success (.array [(← Lease.getRule now id).toJson]))
      | none =>
        if query.forWorker then do
          let selected ← Lease.selectRule now settings.sample shuffle none
          return some (success (.array (selected.toList.map Rule.toJson)))
        else match Page.numbered (query.page.getD 1) settings.pageSize with
          | none => return none
          | some page => do return some (success (.array ((← Lease.listRules now page).map Rule.toJson)))
  | .storeRule =>
    match payload (Rule.ofJson? now) request with
    | .error reply => return some reply
    | .ok rule => do return some (success (← Lease.upsertRule now rule).toJson)
  | .leaseLinks =>
    match LinksQuery.read? request.query with
    | none => return some badQuery
    | some query =>
      match query.ruleId, query.worker with
      | none, _ => return some (.refusal 400 "missing ruleid parameter")
      | _, none => return some (.refusal 400 "missing worker parameter")
      | some ruleId, some worker => do
        -- A rule that is not stored is an error here, not an empty list.
        let _ ← Lease.getRule now ruleId
        let leased ← Lease.allocate now ruleId worker (query.size.getD settings.batchSize)
        return some (success (.array (leased.map Link.toJson)))
  | .completeLinks =>
    match payload completedIds? request with
    | .error reply => return some reply
    | .ok ids => do
      let _ ← Lease.complete now ids
      return some (success (.object []))

/-- The reply for a path that leads nowhere. -/
def notFound : Reply :=
  { status := 404
    body := .json (.object [("code", .string "PAGE_NOT_FOUND"), ("message", .string "Page not found")]) }

/-- A reply without content. -/
def empty (status : Nat) : Reply :=
  { status, body := .text "" }

/-- Answers a request. Operations that fail are answered too; only one that breaks down gets no reply. -/
def respond (settings : Settings) (now : Int) (shuffle : List String → List String) (request : Request) :
    Course Lease.Question Lease.Question.Answer (Option Reply) :=
  if Http.Sharing.isInquiry request then return some (empty 200)
  else match route request with
    | .nowhere => return some notFound
    | .wrongMethod => return some (empty 405)
    | .endpoint endpoint => do
      let outcome ← (serve settings now shuffle request endpoint).run
      let reply := match outcome with
        | .ok reply => reply
        | .error cause => some (failure cause)
      return reply.map fun reply => if request.method = "HEAD" then empty reply.status else reply

end Harvest.Service

import Harvest.Crawl.Buffer
import Harvest.Crawl.Content
import Harvest.Crawl.Queue
import Harvest.Identity.Basic
import Harvest.Metrics
import Harvest.Service.Jobs

/-! A crawl of one rule as a machine that waits for its surroundings: links leased by the coordinator, the
outcomes of fetches in any order, the answers of the sink, and the clock. Each event takes it one step on. -/

namespace Harvest.Crawl

open Service (JobError)

/-- What a crawl is set up with. -/
structure Plan where
  rule : Rule
  pattern : Pattern
  listing : Option Listing
  /-- The name of the worker. -/
  worker : String
  settings : WorkerSettings
  proxy : ProxySettings
  deriving Inhabited

/-- Why a crawl fails. -/
inductive Failure where
  | pattern (ruleId : String) (cause : Pattern.Error)
  | listing (ruleId : String) (cause : Pattern.Error)
  /-- Proxies cannot be checked against a site without an origin. -/
  | noOrigin (ruleId : String)
  | lease (ruleId : String) (cause : JobError)
  | store (ruleId : String) (cause : StoreError)
  /-- No client for requests could be made. -/
  | client (ruleId : String)
  /-- A count has run over, which breaks off the crawl where it is. -/
  | overrun
  deriving DecidableEq, Repr, Inhabited

/-- What a crawl was about when it failed, outermost first. -/
def Failure.contexts : Failure → List String
  | pattern id _ => ["Invalid extraction pattern on rule " ++ id]
  | listing id _ => ["Invalid deep link pattern on rule " ++ id]
  | noOrigin id => ["Rule " ++ id ++ " has no usable origin to validate proxies against"]
  | lease id _ => ["Failed to allocate links for rule " ++ id]
  | store id _ => ["Failed to store results of rule " ++ id]
  | client id => ["Crawl of rule " ++ id ++ " stopped early", "Failed to create HTTP client for rule " ++ id]
  | overrun => ["worker task panicked"]

/-- The wording of what went wrong inside. -/
def Failure.causes : Failure → List String
  | pattern _ cause => [cause.message]
  | listing _ cause => [cause.message]
  | lease _ cause => [cause.message]
  | store _ cause => [cause.message]
  | _ => []

/-- The whole wording of a failure. -/
def Failure.message (failure : Failure) : String :=
  Text.join ": " (failure.contexts ++ failure.causes)

/-- The plan of a crawl, unless the rule does not allow one. -/
def Plan.make (rule : Rule) (worker : String) (settings : WorkerSettings) (proxy : ProxySettings) :
    Except Failure Plan := do
  let pattern ← (Pattern.parse rule.pattern).mapError (.pattern rule.id)
  let listing ← (Listing.parse? rule.fragments).mapError (.listing rule.id)
  if proxy.enabled && rule.origin?.isNone then throw (.noOrigin rule.id)
  return { rule, pattern, listing, worker, settings, proxy }

/-- What a crawl has achieved. -/
structure Report where
  ruleId : String
  /-- Links leased. -/
  allocated : Nat := 0
  /-- Links reported as completed. -/
  completed : Nat := 0
  /-- Links given up. -/
  givenUp : Nat := 0
  /-- Records extracted. -/
  records : Nat := 0
  deriving DecidableEq, Repr, Inhabited

/-- The document of a report. -/
def Report.toJson (report : Report) : Json :=
  .object [
    ("rule_id", .string report.ruleId),
    ("allocated", .int report.allocated),
    ("completed", .int report.completed),
    ("given_up", .int report.givenUp),
    ("records", .int report.records)]

/-- What a fetch gave. -/
inductive Outcome where
  /-- No reply arrived. -/
  | disconnected
  /-- A reply with the cookies that it sets. -/
  | answered (status : Nat) (cookies : List String) (body : String)
  deriving DecidableEq, Repr, Inhabited

/-- The circumstances of an event. -/
structure Moment where
  /-- The time in milliseconds since the epoch. -/
  now : Int
  /-- A clock in milliseconds that never goes back. -/
  clock : Nat
  /-- An identifier that was never given out before. -/
  freshId : String
  deriving DecidableEq, Repr, Inhabited

/-- What a crawl waits for. -/
inductive Phase where
  /-- The first links. -/
  | leasing
  /-- The clock, before a cycle. -/
  | checking
  /-- A client for the requests of a cycle. -/
  | connecting
  /-- The outcomes of the targets that are still open. -/
  | fetching (unanswered : List Target)
  /-- The clock, after the last target. -/
  | rechecking
  /-- More links. -/
  | leasingMore
  /-- The end of the flushes in the background, before the last flush; a client may be missing. -/
  | closing (stopped : Bool)
  /-- The last flush. -/
  | storing (stopped : Bool) (writing : Writing)
  /-- The coordinator, which is told the completed links. -/
  | reporting (stopped : Bool) (ids : List String)
  /-- Nothing: the count of an address has run over, with these targets still open. -/
  | broken (unanswered : List Target)
  /-- Nothing. -/
  | ended (result : Except Failure Report)
  deriving Repr, Inhabited

/-- The state of a crawl. -/
structure State where
  phase : Phase
  queue : Queue
  buffer : Buffer := {}
  /-- The flush in the background. -/
  background : Option Writing := none
  identity : Identity := {}
  metrics : Metrics := {}
  report : Report
  deriving Repr, Inhabited

/-- What happens around a crawl. -/
inductive Event where
  /-- The coordinator leases links. -/
  | leased (reply : Except JobError (List Link))
  /-- The clock is looked at: is the time up? -/
  | clock (late : Bool)
  /-- A client is made, or not. -/
  | client (made : Bool)
  /-- A target is answered; `index` counts the open ones. -/
  | fetched (index : Nat) (outcome : Outcome) (moment : Moment)
  /-- The time for a flush in the background has come. -/
  | flushDue
  /-- The sink answers the flush in the background. -/
  | flushed (reply : Except StoreError Unit)
  /-- No more flushes in the background begin. -/
  | rested
  /-- The sink answers the last flush. -/
  | stored (reply : Except StoreError Unit)
  /-- The coordinator takes the report of completed links. -/
  | reported (reply : Except JobError Unit)
  /-- New proxies are at hand. -/
  | refreshed (pool jar : List String)
  deriving Repr, Inhabited

namespace State

/-- A crawl before its first step. -/
def start (plan : Plan) : State :=
  { phase := .leasing
    queue := { giveUpAfter := plan.settings.giveUpAfter }
    report := { ruleId := plan.rule.id } }

/-- Takes leased links into the queue. -/
def seed (state : State) (links : List Link) : State :=
  { state with
    queue := state.queue.seed links
    report := { state.report with allocated := state.report.allocated + links.length } }

/-- Goes on with the next cycle, or to the end if there is nothing left to fetch. -/
def proceed (state : State) : State :=
  { state with phase := if state.queue.pending.isEmpty then .closing false else .checking }

/-- Counts an event. -/
def count (state : State) (event : Metrics.Event) : State :=
  { state with metrics := state.metrics.count event }

/-- Puts a target back or gives it up, if its address can be counted. -/
def retry (state : State) (target : Target) : Option State :=
  (state.queue.requeue target).map fun (again, queue) =>
    { state with queue }.count (if again then .requeued else .gaveUp)

/-- Changes the identity after a failure. -/
def rotate (plan : Plan) (moment : Moment) (proxy cookie : Bool) (state : State) : State :=
  { state with identity := (state.identity.rotate plan.proxy moment.clock proxy cookie).2 }

/-- Queues the detail pages of a listing and counts those that were queued. -/
def discoverAll (depth : Nat) : List DetailPage → Queue → Nat × Queue
  | [], queue => (0, queue)
  | page :: rest, queue =>
    let (queued, queue) := queue.discover page depth
    let (count, queue) := discoverAll depth rest queue
    (count + (if queued then 1 else 0), queue)

/-- Deals with a page by what it is, if there is a count for an address that has failed. -/
def handlePage (plan : Plan) (target : Target) (body : String) (moment : Moment) (content : Content)
    (state : State) : Option State :=
  match content with
  | .listing pages =>
    let (queued, queue) := discoverAll target.depth pages state.queue
    some ({ state with queue := queue.markProcessed target.url }.count (.deepLinks queued))
  | .record fields =>
    let document := recordDocument moment.freshId target.url moment.now fields
    some ({ state with
      buffer := state.buffer.pushRecord document
      queue := (state.queue.dropParentValue target.url).markProcessed target.url
      report := { state.report with records := state.report.records + 1 } }.count .record)
  | .wrongPage =>
    let document :=
      diagnosticDocument moment.freshId target.url state.identity.cookie body moment.now
    let state := { state with
      buffer := state.buffer.pushDiagnostic plan.settings.writeLayoutErrors document }
    -- In every fifth second of the minute the proxy is kept.
    let keepProxy := moment.now / 1000 % 60 % 5 = 0
    ((state.rotate plan moment (!keepProxy) true).count .wrongPage).retry target
  | .invalid =>
    some ({ state with
      queue := (state.queue.dropParentValue target.url).markProcessed target.url }.count .invalidPage)

/-- Deals with the outcome of a fetch, if there is a count for an address that has failed. -/
def handle (plan : Plan) (target : Target) (outcome : Outcome) (moment : Moment) (state : State) :
    Option State :=
  match outcome with
  | .disconnected =>
    ((state.rotate plan moment true false).count (.request false 0 none 0)).retry target
  | .answered status cookies body =>
    let state := { state with identity := state.identity.mergeCookies cookies }
    if 400 ≤ status then
      ((state.rotate plan moment true true).count (.request false 0 (some status) 0)).retry target
    else
      let content :=
        Content.ofPage plan.pattern plan.listing target.url body (state.queue.parentValue target.url)
      (state.count (.request true 0 (some status) body.utf8ByteSize)).handlePage plan target body moment
        content

/-- Goes on after an outcome: with the open targets, with the clock if nothing is left, or with another
cycle. -/
def afterOutcome (unanswered : List Target) (state : State) : State :=
  if !unanswered.isEmpty then { state with phase := .fetching unanswered }
  else if state.queue.pending.isEmpty then { state with phase := .rechecking }
  else { state with phase := .checking }

/-- Ends a crawl. -/
def finish (stopped : Bool) (state : State) : State :=
  let report := { state.report with givenUp := state.queue.givenUp.length }
  { state with
    report
    phase := .ended (if stopped then .error (.client report.ruleId) else .ok report) }

/-- Reports the completed links after the last flush, if there are any. -/
def report? (stopped : Bool) (state : State) : State :=
  if state.queue.completed.isEmpty then state.finish stopped
  else { state with phase := .reporting stopped state.queue.completed }

/-- Goes on with the last flush. -/
def store (stopped : Bool) (next : Option Writing) (state : State) : State :=
  match next with
  | some writing => { state with phase := .storing stopped writing }
  | none => state.report? stopped

/-- Begins the last flush. -/
def lastFlush (stopped : Bool) (state : State) : State :=
  let (flush, buffer) := state.buffer.begin
  { state with buffer }.store stopped flush.firstWrite

/-- May flushes in the background begin? One that is due when the crawl closes may still begin. -/
def hasFlusher (state : State) : Bool :=
  match state.phase with
  | .leasing | .checking | .connecting | .fetching _ | .rechecking | .leasingMore | .closing _ => true
  | _ => false

/-- Takes an event; what a crawl does not wait for leaves it as it is. -/
def step (plan : Plan) (state : State) : Event → State
  | .leased reply =>
    match state.phase, reply with
    | .leasing, .ok links => (state.seed links).proceed
    | .leasing, .error cause => { state with phase := .ended (.error (.lease plan.rule.id cause)) }
    | .leasingMore, .ok links => (state.seed links).proceed
    | .leasingMore, .error _ => state.proceed
    | _, _ => state
  | .clock late =>
    match state.phase with
    | .checking => if late then { state with phase := .closing false } else { state with phase := .connecting }
    | .rechecking => if late then { state with phase := .closing false } else { state with phase := .leasingMore }
    | _ => state
  | .client made =>
    match state.phase with
    | .connecting =>
      if made then
        let (targets, queue) := state.queue.drain
        { state with queue, phase := .fetching targets }
      else { state with phase := .closing true }
    | _ => state
  | .fetched index outcome moment =>
    match state.phase with
    | .fetching unanswered =>
      match unanswered[index]? with
      | some target => match state.handle plan target outcome moment with
        | some after => after.afterOutcome (unanswered.eraseIdx index)
        -- What is left undone by this outcome is not looked at any more.
        | none => { state with phase := .broken unanswered }
      | none => state
    | _ => state
  | .flushDue =>
    match state.hasFlusher, state.background with
    | true, none =>
      let (flush, buffer) := state.buffer.begin
      { state with buffer, background := flush.firstWrite }
    | _, _ => state
  | .flushed reply =>
    match state.background with
    | some writing =>
      let (buffer, next) := state.buffer.afterWrite writing reply
      { state with buffer, background := next.toOption.join }
    | none => state
  | .rested =>
    match state.phase, state.background with
    | .closing stopped, none => state.lastFlush stopped
    | _, _ => state
  | .stored reply =>
    match state.phase with
    | .storing stopped writing =>
      let (buffer, next) := state.buffer.afterWrite writing reply
      match next with
      | .ok next => { state with buffer }.store stopped next
      | .error cause => { state with buffer, phase := .ended (.error (.store plan.rule.id cause)) }
    | _ => state
  | .reported reply =>
    match state.phase with
    | .reporting stopped ids =>
      let completed := match reply with
        | .ok () => ids.length
        | .error _ => 0
      { state with report := { state.report with completed } }.finish stopped
    | _ => state
  | .refreshed pool jar => { state with identity := state.identity.replace pool jar }

end State

end Harvest.Crawl

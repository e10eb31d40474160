import Harvest.Proofs.Course
import Harvest.Proofs.Lease.Book

/-! The requests that a coordinator takes, and the terms between the operation of a request and the store:
which calls the operation may make, given what it has read and which identifiers it was given. -/

namespace Harvest

/-- The cause of a failure is not that a document does not read. -/
def StoreError.ReadsWell (cause : StoreError) : Prop :=
  ∀ reason, cause ≠ .serialization reason

namespace Lease

/-- What a coordinator is asked to do. -/
inductive Request where
  | upsertRule (rule : Rule) (fits : rule.Fits)
  | getRule (id : String)
  | listRules (page : Page)
  | linksOf (ruleId : String) (page : Page)
  | dueRules (at_ : Int)
  | cancelRule (id : String)
  | generateLinks (ruleId : String)
  | allocate (ruleId worker : String) (size : Nat)
  | complete (ids : List String)
  | reclaim (staleAfter : Int)
  | selectRule (sample : Nat) (shuffle : List String → List String) (wanted : Option String)

namespace Request

/-- What a request gives when it succeeds. -/
abbrev Result : Request → Type
  | upsertRule .. => Rule
  | getRule _ => Rule
  | listRules _ => List Rule
  | linksOf .. => List Link
  | dueRules _ => List Rule
  | cancelRule _ => Nat
  | generateLinks _ => Nat
  | allocate .. => List Link
  | complete _ => Nat
  | reclaim _ => Nat
  | selectRule .. => Option Rule

/-- The operation of a request. -/
def operation (now : Instant) : (request : Request) → Operation request.Result
  | upsertRule rule _ => Lease.upsertRule now rule
  | getRule id => Lease.getRule now id
  | listRules page => Lease.listRules now page
  | linksOf ruleId page => Lease.linksOf now ruleId page
  | dueRules at_ => Lease.dueRules now at_
  | cancelRule id => Lease.cancelRule now id
  | generateLinks ruleId => Lease.generateLinks now ruleId
  | allocate ruleId worker size => Lease.allocate now ruleId worker size
  | complete ids => Lease.complete now ids
  | reclaim staleAfter => Lease.reclaim now staleAfter
  | selectRule sample shuffle wanted => Lease.selectRule now sample shuffle wanted

/-- Does the request cancel the links of the given rule that are not completed? -/
def cancels (ruleId : String) : Request → Prop
  | cancelRule id => id = ruleId
  | generateLinks id => id = ruleId
  | _ => False

end Request

/-- What an operation has learned from its questions so far. -/
structure Knowledge where
  /-- The fresh identifiers that it was given and has not stored. -/
  minted : List String := []
  /-- The links that the last call has read. -/
  read : List Link := []
  /-- The identifiers of all links that it has read, with their rules. -/
  placed : List (String × String) := []

/-- What is known when the last call has read nothing. -/
def Knowledge.unread (known : Knowledge) : Knowledge :=
  { known with read := [] }

/-- What is known when the last call has read links. -/
def Knowledge.reading (known : Knowledge) (found : List Link) : Knowledge :=
  { known with
    read := found
    placed := known.placed ++ found.map fun link => (link.id, link.ruleId) }

/-- The questions that the operation of a request may ask. -/
inductive Asks (now : Instant) : Request → Knowledge → Question → Prop
  | freshId {request known} : Asks now request known .freshId
  | findLinks {request known} (filter : Filter) (page : Page) :
      Asks now request known (.store (.find links filter page))
  | findRules {request known} (filter : Filter) (page : Page) :
      Asks now request known (.store (.find rules filter page))
  /-- Links are leased that are still active, all of the rule that is asked for. -/
  | lease {ruleId worker size known} {ids : List String} (named : worker ≠ "")
      (own : ∀ id ∈ ids, (id, ruleId) ∈ known.placed) :
      Asks now (.allocate ruleId worker size) known
        (.store (.updateMany links [Filter.isOneOf "id" ids, Filter.isText "status" LinkStatus.active.text]
          (stamp .running worker now)))
  | complete {ids known} :
      Asks now (.complete ids) known
        (.store (.updateMany links [Filter.isOneOf "id" ids,
          Filter.isOneOf "status" [LinkStatus.running.text, LinkStatus.active.text]]
          (stamp .completed "" now)))
  | takeBack {staleAfter known} (bound : Int) :
      Asks now (.reclaim staleAfter) known
        (.store (.updateMany links [Filter.isText "status" LinkStatus.running.text,
          ("lastUpdate", .lt (.int bound))] (stamp .active "" now)))
  | cancelLinks {request : Request} {ruleId known} (own : request.cancels ruleId) :
      Asks now request known
        (.store (.updateMany links [Filter.isText "ruleID" ruleId,
          Filter.isNotText "status" LinkStatus.completed.text] (stamp .cancelled "" now)))
  /-- New links have the identifiers that were given out for them. -/
  | addLinks {ruleId known} {added : List Link} (named : added.map Link.id = known.minted)
      (active : ∀ link ∈ added, link.status = .active ∧ link.worker = "" ∧ link.updated = now) :
      Asks now (.generateLinks ruleId) known (.store (.insertMany links (added.map Link.toJson)))
  | cancelRule {id known} :
      Asks now (.cancelRule id) known
        (.store (.updateMany rules [Filter.isText "id" id]
          [("status", .string RuleStatus.cancelled.text), ("lastUpdate", .int now)]))
  | dateRule {ruleId known} :
      Asks now (.generateLinks ruleId) known
        (.store (.updateMany rules [Filter.isText "id" ruleId] [("lastGenerated", .int now)]))
  /-- Only rules that a worker can use are stored. -/
  | putRule {given fits known} {rule : Rule} (usable : rule.Fits ∧ rule.missing = []) :
      Asks now (.upsertRule given fits) known
        (.store (.upsertOne rules [Filter.isText "id" rule.id] rule.toJson))

/-- The answers that an operation may hear. A call fails without effect or does what it is asked to; what is
read are the documents of links and rules that read back. -/
def Hears (known : Knowledge) : (question : Question) → question.Answer → Knowledge → Prop
  | .freshId, id, known' => known' = { known.unread with minted := known.minted ++ [id] }
  | .store _, .error cause, known' => (∃ reason, cause = .backend reason) ∧ known' = known.unread
  | .store (.find collection filter _), .ok documents, known' =>
    (collection = links → ∃ found : List Link, documents = found.map Link.toJson ∧
      (∀ link ∈ found, Record.IsTime link.updated ∧ Store.chosen filter link.members = true) ∧
      known' = known.reading found) ∧
    (collection = rules → (∃ found : List Rule, documents = found.map Rule.toJson ∧
      ∀ rule ∈ found, rule.Fits) ∧ known' = known.unread)
  | .store (.insertMany ..), .ok (), known' => known' = { known.unread with minted := [] }
  | .store (.updateMany ..), .ok _, known' => known' = known.unread
  | .store (.upsertOne ..), .ok (), known' => known' = known.unread

/-- The terms between the operation of a request and the store. -/
def terms (now : Instant) (request : Request) : Terms Question Question.Answer Knowledge where
  asks := Asks now request
  hears := Hears

/-- What a request ends with: never the complaint that a document does not read, and the links that it
leases are those of its last read, leased to its worker. -/
def Request.Ends : (request : Request) → Knowledge → Except StoreError request.Result → Prop
  | allocate _ worker _, known, .ok leased =>
    ∀ link ∈ leased, link ∈ known.read ∧ link.worker = worker ∧ link.status = .running
  | _, _, .ok _ => True
  | _, _, .error cause => cause.ReadsWell

/-- No request ends with a complaint about a document. -/
theorem Request.readsWell_of_ends {request : Request} {known : Knowledge} {cause : StoreError}
    (ended : request.Ends known (.error cause)) : cause.ReadsWell := by
  -- Requests differ in what they promise of a result, not of a failure.
  cases request <;> exact ended

end Lease

end Harvest

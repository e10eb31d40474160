import Harvest.Lease.Link
import Harvest.Lease.Rule
import Harvest.Store.Call

/-! The operations of the coordinator: courses of store calls that hand links out to workers, take them back
and keep rules. Each call happens at once; other operations may come in between. -/

namespace Harvest.Lease

/-- What an operation asks of its surroundings. -/
inductive Question where
  | store (call : StoreCall)
  /-- An identifier that was never given out before. -/
  | freshId
  deriving Repr, Inhabited

/-- The answers to a question. -/
abbrev Question.Answer : Question → Type
  | store call => Except StoreError call.Result
  | freshId => String

/-- A course of store calls that may fail. -/
abbrev Operation (α : Type) := ExceptT StoreError (Course Question Question.Answer) α

/-- A single store call. -/
def call (request : StoreCall) : Operation request.Result :=
  ExceptT.mk (Course.query (Question.store request))

/-- A fresh identifier. -/
def freshId : Operation String :=
  ExceptT.lift (Course.query Question.freshId)

/-- The collection of rules. -/
def rules : String := "Rules"

/-- The collection of links. -/
def links : String := "Links"

/-- Reads all documents, unless one of them has another form. -/
def decode (read? : Json → Option α) (documents : List Json) : Operation (List α) :=
  match documents.mapM read? with
  | some values => pure values
  | none => throw (.serialization "")

/-- The fields of a link that changes hands. -/
def stamp (status : LinkStatus) (worker : String) (now : Int) : Fields :=
  [("status", .string status.text), ("worker", .string worker), ("lastUpdate", .int now)]

/-- The rule with an identifier. -/
def getRule (now : Int) (id : String) : Operation Rule := do
  let documents ← call (.find rules [Filter.isText "id" id] (Page.first 1))
  match ← decode (Rule.ofJson? now) documents with
  | rule :: _ => return rule
  | [] => throw (.notFound ("rule " ++ id))

/-- The rules of a page, in order of insertion. -/
def listRules (now : Int) (page : Page) : Operation (List Rule) := do
  decode (Rule.ofJson? now) (← call (.find rules [] page))

/-- The links of a rule, in order of insertion. -/
def linksOf (now : Int) (ruleId : String) (page : Page) : Operation (List Link) := do
  decode (Link.ofJson? now) (← call (.find links [Filter.isText "ruleID" ruleId] page))

/-- Stores a rule under its identifier, or under a fresh one if it has none. -/
def upsertRule (now : Int) (rule : Rule) : Operation Rule := do
  let id ← if rule.id = "" then freshId else pure rule.id
  let rule := { rule with id, updated := now }
  match rule.validate with
  | .ok () => pure ()
  | .error cause => throw cause
  call (.upsertOne rules [Filter.isText "id" rule.id] rule.toJson)
  return rule

/-- The active rules whose links should be generated at the time `at_`. -/
def dueRules (now at_ : Int) : Operation (List Rule) := do
  let documents ← call (.find rules [Filter.isText "status" RuleStatus.active.text] Page.all)
  return (← decode (Rule.ofJson? now) documents).filter (·.isDue at_)

/-- Cancels all links of a rule that are not completed. -/
def cancelLinks (now : Int) (ruleId : String) : Operation Nat :=
  call (.updateMany links
    [Filter.isText "ruleID" ruleId, Filter.isNotText "status" LinkStatus.completed.text]
    (stamp .cancelled "" now))

/-- Cancels a rule and its links that are not completed. -/
def cancelRule (now : Int) (id : String) : Operation Nat := do
  let _ ← getRule now id
  let _ ← call (.updateMany rules [Filter.isText "id" id]
    [("status", .string RuleStatus.cancelled.text), ("lastUpdate", .int now)])
  cancelLinks now id

/-- New active links for addresses, each with a fresh identifier. -/
def newLinks (now : Int) (ruleId : String) : List String → Operation (List Json)
  | [] => return []
  | url :: rest => do
    let id ← freshId
    let others ← newLinks now ruleId rest
    return Link.toJson { id, url, ruleId, updated := now } :: others

/-- Replaces the links of a rule that are not completed by one for each of its pages. -/
def generateLinks (now : Int) (ruleId : String) : Operation Nat := do
  let rule ← getRule now ruleId
  if rule.status = .cancelled then
    throw (.invalidInput ("rule " ++ ruleId ++ " is cancelled"))
  match rule.pageUrls with
  | .error cause => throw cause
  | .ok urls =>
    let _ ← cancelLinks now ruleId
    let documents ← newLinks now ruleId urls
    call (.insertMany links documents)
    let _ ← call (.updateMany rules [Filter.isText "id" ruleId] [("lastGenerated", .int now)])
    return documents.length

/-- Leases active links of a rule to a worker, up to the given number, and gives those that it then holds. -/
def allocate (now : Int) (ruleId worker : String) (size : Nat) : Operation (List Link) := do
  if worker = "" then throw (.invalidInput "worker ID is empty")
  if size = 0 then return []
  let found ← call (.find links
    [Filter.isText "ruleID" ruleId, Filter.isText "status" LinkStatus.active.text] (Page.first size))
  let candidates ← decode (Link.ofJson? now) found
  if candidates.isEmpty then return []
  let ids := candidates.map Link.id
  -- Links that another coordinator took in the meantime are active no more.
  let _ ← call (.updateMany links
    [Filter.isOneOf "id" ids, Filter.isText "status" LinkStatus.active.text]
    (stamp .running worker now))
  let held ← call (.find links
    [Filter.isOneOf "id" ids, Filter.isText "worker" worker,
      Filter.isText "status" LinkStatus.running.text] Page.all)
  decode (Link.ofJson? now) held

/-- Completes links that are active or leased; all others stay as they are. -/
def complete (now : Int) (ids : List String) : Operation Nat := do
  if ids.isEmpty then return 0
  call (.updateMany links
    [Filter.isOneOf "id" ids,
      Filter.isOneOf "status" [LinkStatus.running.text, LinkStatus.active.text]]
    (stamp .completed "" now))

/-- Takes back the links that have been leased for longer than the given milliseconds. -/
def reclaim (now staleAfter : Int) : Operation Nat :=
  call (.updateMany links
    [Filter.isText "status" LinkStatus.running.text,
      ("lastUpdate", .lt (.int (now - staleAfter)))]
    (stamp .active "" now))

/-- The first of the candidates that names an active rule; `checked` holds those that do not. -/
def firstActive (now : Int) (checked : List String) : List String → Operation (Option Rule)
  | [] => return none
  | id :: rest =>
    if checked.contains id then firstActive now checked rest
    else do
      let outcome ← ExceptT.lift (getRule now id).run
      match outcome with
      | .ok rule =>
        if rule.status = .active then return some rule else firstActive now (id :: checked) rest
      | .error (.notFound _) => firstActive now (id :: checked) rest
      | .error cause => throw cause

/-- The rule with the wanted identifier, or else an active rule with active links: among the first of these
links, up to `sample`, the order that `shuffle` gives decides. -/
def selectRule (now : Int) (sample : Nat) (shuffle : List String → List String) (wanted : Option String) :
    Operation (Option Rule) :=
  match wanted.filter (· ≠ "") with
  | some id => do return some (← getRule now id)
  | none => do
    let found ← call (.find links [Filter.isText "status" LinkStatus.active.text]
      (Page.first (max sample 1)))
    let active ← decode (Link.ofJson? now) found
    firstActive now [] (shuffle (active.map Link.ruleId))

/-- Gives one rule after the other its turn and counts those for which it succeeds. -/
def generateEach [Monad m] (turn : Rule → m (Except StoreError Nat)) : List Rule → m Nat
  | [] => return 0
  | rule :: rest => do
    let outcome ← turn rule
    let others ← generateEach turn rest
    return others + (if outcome.isOk then 1 else 0)

/-- The turn of a rule, which does not end the others by failing. -/
def generateTurn (now : Int) (rule : Rule) : Operation (Except StoreError Nat) :=
  ExceptT.lift (generateLinks now rule.id).run

/-- Generates the links of all rules that are due and counts those for which it succeeds. -/
def generateDue (now : Int) : Operation Nat := do
  generateEach (generateTurn now) (← dueRules now now)

end Harvest.Lease

import Harvest.Service.Router

/-! The worker's view of the coordinator: three calls, served by a coordinator in the same process or by the
job service. -/

namespace Harvest.Service

open Http (Request Reply)
open Lease (Operation)

/-- Why a call of the coordinator fails. -/
inductive JobError where
  /-- The request or its reply got lost or made no sense. -/
  | transport
  /-- The service refused. -/
  | status (code : Nat) (body : String)
  /-- The coordinator in this process failed. -/
  | store (cause : StoreError)
  deriving DecidableEq, Repr, Inhabited

/-- The wording of a cause, as far as it is fixed. -/
def JobError.message : JobError → String
  | transport => "Job API request failed: "
  | status code body => "Job API answered " ++ toString code ++ ": " ++ body
  | store cause => cause.message

/-- A call of the coordinator. -/
inductive JobCall where
  /-- The rule with an identifier, or any rule with work. -/
  | fetchRule (id : Option String)
  /-- A batch of links of a rule for a worker. -/
  | allocate (ruleId worker : String) (size : Nat)
  /-- A report of completed links. -/
  | complete (ids : List String)
  deriving DecidableEq, Repr, Inhabited

namespace JobCall

/-- What a successful call gives. -/
abbrev Result : JobCall → Type
  | fetchRule _ => Option Rule
  | allocate .. => List Link
  | complete _ => Unit

/-- Carries out a call in the process of the coordinator. -/
def operation (settings : Settings) (now : Int) (shuffle : List String → List String) :
    (call : JobCall) → Operation call.Result
  | fetchRule id => Lease.selectRule now settings.sample shuffle id
  | allocate ruleId worker size => Lease.allocate now ruleId worker size
  | complete ids => do
    let _ ← Lease.complete now ids

/-- The request that a call sends to the service. -/
def request : JobCall → Request
  | fetchRule id =>
    { path := root ++ "/rules"
      query := match named id with
        | some id => [("ruleid", id)]
        | none => [("isscraper", "1")] }
  | allocate ruleId worker size =>
    { path := root ++ "/links"
      query := [("ruleid", ruleId), ("worker", worker), ("size", toString size)] }
  | complete ids =>
    { method := "POST"
      path := root ++ "/links"
      contentType := some "application/json"
      body := (Json.object [("linkids", .array (ids.map .string))]).render }

/-- The document of a reply, unless it is a refusal or no document. -/
def document (reply : Reply) : Except JobError Json :=
  if 200 ≤ reply.status ∧ reply.status < 300 then
    match Json.readAll? reply.body.render.toList with
    | some document => .ok document
    | none => .error .transport
  else .error (.status reply.status reply.body.render)

/-- The items of a document that is a list, each read alike. -/
def items (read? : Json → Option α) (document : Json) : Except JobError (List α) :=
  match document with
  | .array found =>
    match found.mapM read? with
    | some values => .ok values
    | none => .error .transport
  | _ => .error .transport

/-- The result of a call according to a reply; without a reply the call has failed. -/
def result (now : Int) (reply : Option Reply) : (call : JobCall) → Except JobError call.Result
  | fetchRule _ => do
    let reply ← reply.elim (.error .transport) .ok
    return (← items (Rule.ofJson? now) (← document reply)).head?
  | allocate .. => do
    let reply ← reply.elim (.error .transport) .ok
    items (Link.ofJson? now) (← document reply)
  | complete _ => do
    let reply ← reply.elim (.error .transport) .ok
    let _ ← document reply

/-- Carries out a call by way of the service, given what becomes of a request on its way. -/
def remote (now : Int) (send : Request → Option Reply) (call : JobCall) : Except JobError call.Result :=
  call.result now (send call.request)

end JobCall

end Harvest.Service

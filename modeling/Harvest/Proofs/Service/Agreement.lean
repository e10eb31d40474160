import Harvest.Proofs.Lease.Batches
import Harvest.Proofs.Lease.Exchange
import Harvest.Service.Jobs

/-! Workers cannot tell whether their calls are carried out in the process of the coordinator or by the job service:
both give the same results and leave the same documents, call after call. Only a report of more links than the service
takes in at once tells them apart. -/

namespace Harvest

namespace Lease

/-- Does the request leave all rules as they are? -/
def Request.sparesRules : Request → Prop
  | upsertRule .. => False
  | cancelRule _ => False
  | generateLinks _ => False
  | _ => True

/-- The rules stay as they are when a request is worked on that spares them. -/
theorem RulesBecome.eq_of_sparesRules {name : Nat → String} {before : Ledger} {request : Request} {rules : List Rule}
    (become : RulesBecome name before request rules) (spares : request.sparesRules) : rules = before.rules := by
  -- Every rule stays, since a request that spares them neither cancels nor generates.
  cases become with
  | moved moves =>
    refine (List.forall₂_eq_eq_eq ▸ moves.imp fun rule later move => ?_ : before.rules = rules).symm
    cases move with
    | stays => rfl
    | cancelled now => exact spares.elim
    | generated now => exact spares.elim
  | put now => exact spares.elim

/-- A request that spares the rules leaves a ledger with the same ones. -/
theorem Ledger.Reached.sparesRules {name : Nat → String} (injective : Function.Injective name) {ledger : Ledger}
    {coordinator : Coordinator} (reached : ledger.Reached name coordinator) {request : Request}
    (spares : request.sparesRules) (now : Instant) (outages : List Outage) :
    ∃ after : Ledger, after.Reached name (coordinator.attempt name outages (request.operation now)).2 ∧
      after.rules = ledger.rules := by
  -- What a request does to the rules is part of what its operation does to the ledger.
  have led : Operation.Leads name (outages ≠ []) (request.Does name ledger) (request.operation now) ledger :=
    request.operation_leads reached.valid reached.unique
  obtain ⟨after, reached', does⟩ := reached.attempt injective led
  exact ⟨after, reached', does.rules.eq_of_sparesRules spares⟩

end Lease

namespace Service

open Lease (Coordinator Ledger Operation)

/-- A call of a worker, with the clock of the coordinator, the order in which it looks at links, and the clock of the
worker when it reads the reply. -/
structure Turn where
  call : JobCall
  now : Instant
  shuffle : List String → List String
  seen : Int

/-- The calls that need no rule or one that is stored, name a worker and a number of links to be leased, and report no
more links than the service takes in at once. -/
def JobCall.Usable (rules : List Rule) : JobCall → Prop
  | fetchRule none => True
  | fetchRule (some id) => ∃ rule ∈ rules, rule.id = id
  | allocate ruleId worker size =>
    (∃ rule ∈ rules, rule.id = ruleId) ∧ worker ≠ "" ∧ 0 < size ∧ size < Word.bound
  | complete ids => (complete ids).request.body.utf8ByteSize ≤ contentLimit

namespace Turn

/-- The call, carried out in the process of the coordinator. -/
def inProcess (name : Nat → String) (settings : Settings) (coordinator : Coordinator) (turn : Turn) :
    Except StoreError turn.call.Result × Coordinator :=
  coordinator.attempt name [] (turn.call.operation settings turn.now turn.shuffle)

/-- The reply of the service to a request, if there is one. -/
def reply (name : Nat → String) (settings : Settings) (coordinator : Coordinator) (turn : Turn)
    (request : Http.Request) : Option Http.Reply × Coordinator :=
  (respond settings turn.now turn.shuffle request).run (Coordinator.answer name) { coordinator with outages := [] }

/-- The call, carried out by way of the service. -/
def served (name : Nat → String) (settings : Settings) (coordinator : Coordinator) (turn : Turn) :
    Except JobError turn.call.Result × Coordinator :=
  (turn.call.remote turn.seen fun request => (turn.reply name settings coordinator request).1,
    (turn.reply name settings coordinator turn.call.request).2)

end Turn

/-- Two coordinators, one with calls in its process and one behind the service, give the same results for a series of
calls, and their documents are the same after each of them. -/
def Indistinguishable (name : Nat → String) (settings : Settings) : Coordinator → Coordinator → List Turn → Prop
  | _, _, [] => True
  | near, far, turn :: rest =>
    (∃ result, (turn.inProcess name settings near).1 = .ok result ∧ (turn.served name settings far).1 = .ok result) ∧
    (∀ collection, (turn.served name settings far).2.store.documents collection =
      (turn.inProcess name settings near).2.store.documents collection) ∧
    Indistinguishable name settings (turn.inProcess name settings near).2 (turn.served name settings far).2 rest

section Replies

variable {name : Nat → String}

/-- The reply to a request whose operation has ended; one that has broken down gets none. -/
def replied (request : Http.Request) (outcome : Except StoreError (Option Http.Reply)) : Option Http.Reply :=
  let reply := match outcome with
    | .ok reply => reply
    | .error cause => some (failure cause)
  reply.map fun reply => if request.method = "HEAD" then empty reply.status else reply

/-- A request that leads to an endpoint is not one that asks in advance. -/
theorem isInquiry_of_route {request : Http.Request} {endpoint : Endpoint}
    (routed : route request = .endpoint endpoint) : Http.Sharing.isInquiry request = false := by
  rw [Http.Sharing.isInquiry, decide_eq_false_iff_not]
  intro inquires
  -- Neither reading nor writing goes by this method.
  have unrouted (read write : Endpoint) : routeOf request.method read write = .wrongMethod := by
    rw [inquires]
    rfl
  rw [route, unrouted, unrouted] at routed
  split_ifs at routed

/-- At an endpoint the operation is worked off, and its outcome is replied. -/
theorem run_endpoint {settings : Settings} {now : Int} {shuffle : List String → List String} {request : Http.Request}
    {endpoint : Endpoint} (routed : route request = .endpoint endpoint) (coordinator : Coordinator) :
    (respond settings now shuffle request).run (Coordinator.answer name) coordinator =
      (replied request (coordinator.run name (serve settings now shuffle request endpoint)).1,
        (coordinator.run name (serve settings now shuffle request endpoint)).2) := by
  -- An endpoint is no inquiry, so that the answer is that of its operation.
  unfold respond
  rw [isInquiry_of_route routed, if_neg Bool.false_ne_true, routed]
  exact Course.run_bind _ _ _ _

/-- An operation that succeeds at an endpoint gives the reply of the service. -/
theorem run_respond {settings : Settings} {now : Int} {shuffle : List String → List String} {request : Http.Request}
    {endpoint : Endpoint} {reply : Http.Reply} {coordinator later : Coordinator}
    (asked : request.method = "GET" ∨ request.method = "POST") (routed : route request = .endpoint endpoint)
    (ran : coordinator.run name (serve settings now shuffle request endpoint) = (.ok (some reply), later)) :
    (respond settings now shuffle request).run (Coordinator.answer name) coordinator = (some reply, later) := by
  -- A body is taken away only for a request that wants none.
  have noHead : request.method ≠ "HEAD" := by
    rcases asked with asked | asked <;> simp [asked]
  rw [run_endpoint routed, ran, replied, Option.map_some, if_neg noHead]

namespace JobCall

/-- A reply with a document that can be written as text is read by the worker as it was written. -/
theorem document_success {document : Json} (plain : document.Plain (Json.nestingLimit - 1)) :
    JobCall.document (success document) = .ok document := by
  -- The text that was written is read back as the document.
  have read : Json.readAll? (success document).body.render.toList = some document := Json.readAll?_render plain
  unfold JobCall.document
  rw [read]
  rfl

/-- Items that read back are read by the worker as they were written. -/
theorem items_map {α : Type} {read? : Json → Option α} {write : α → Json} {values : List α}
    (readable : ∀ value ∈ values, read? (write value) = some value) :
    items read? (.array (values.map write)) = .ok values := by
  simp only [items, Lease.mapM_of_readable readable]

end JobCall

/-- Where the request of a call leads. -/
theorem route_request (call : JobCall) :
    route call.request = .endpoint (match call with
      | .fetchRule _ => .readRules
      | .allocate .. => .leaseLinks
      | .complete _ => .completeLinks) := by
  have other : root ++ "/links" ≠ root ++ "/rules" := by decide
  cases call <;> simp [route, routeOf, JobCall.request, other]

/-- The request of a call reads or writes. -/
theorem method_request (call : JobCall) : call.request.method = "GET" ∨ call.request.method = "POST" := by
  -- By the call, each of which has a method of its own.
  cases call with
  | fetchRule id => exact .inl rfl
  | allocate ruleId worker size => exact .inl rfl
  | complete ids => exact .inr rfl

/-- A text that is not empty is a value of a query. -/
theorem named_some {text : String} (filled : text ≠ "") : named (some text) = some text := by
  simp [named, Option.filter, filled]

/-- The service reads which rule is asked for. -/
theorem read?_fetchRule {id : String} (filled : id ≠ "") :
    RulesQuery.read? (JobCall.fetchRule (some id)).request.query = some ⟨some id, false, none⟩ := by
  -- An empty name would not be sent at all.
  have query : (JobCall.fetchRule (some id)).request.query = [("ruleid", id)] := by
    simp only [JobCall.request, named_some filled]
  have read : RulesQuery.read? [("ruleid", id)] = some ⟨named (some id), false, none⟩ := rfl
  rw [query, read, named_some filled]

/-- The service reads which links are asked for, for whom, and how many. -/
theorem read?_allocate {ruleId worker : String} (filled : ruleId ≠ "") (worked : worker ≠ "") {size : Nat}
    (positive : 0 < size) (small : size < Word.bound) :
    LinksQuery.read? (JobCall.allocate ruleId worker size).request.query =
      some ⟨some ruleId, some worker, some size⟩ := by
  -- Each parameter is found by its name, and the number is read back as it was written.
  have counted : number? (JobCall.allocate ruleId worker size).request.query "size" = some (some size) :=
    congrArg (Option.map some) (Decimal.natBelow?_toString small)
  have ruled : parameter? (JobCall.allocate ruleId worker size).request.query "ruleid" = some (some ruleId) := rfl
  have leased : parameter? (JobCall.allocate ruleId worker size).request.query "worker" = some (some worker) := rfl
  have other : parameter? (JobCall.allocate ruleId worker size).request.query "scraper" = some none := rfl
  simp [LinksQuery.read?, counted, ruled, leased, other, named_some filled, named_some worked, Option.filter, positive]

/-- The service reads which links are reported, unless it takes in no report as long as that. -/
theorem payload_complete {ids : List String}
    (short : (JobCall.complete ids).request.body.utf8ByteSize ≤ contentLimit) :
    payload completedIds? (JobCall.complete ids).request = .ok ids := by
  -- A body that is taken in is read back as the object it was written for, which names the links.
  have texts : (Json.array (ids.map .string)).Plain 126 := .array_map fun id _ => .string id
  have plain : (Json.object [("linkids", .array (ids.map .string))]).Plain (Json.nestingLimit - 1) :=
    .object (by simpa using texts)
  have read : Json.readFirst? (JobCall.complete ids).request.body.toList = _ := Json.readFirst?_render plain
  have announced : (JobCall.complete ids).request.contentType.any Http.announcesJson = true := by rfl
  have reported : completedIds? (.object [("linkids", .array (ids.map .string))]) = some ids := by
    have listed : Record.texts? (Json.array (ids.map .string)) = some ids :=
      (Lease.mapM_of_readable fun _ _ => rfl : (ids.map Json.string).mapM Json.string? = some ids)
    have read : Record.read? ["linkids"] [] Record.texts? [("linkids", Json.array (ids.map .string))] = some ids :=
      Record.read?_eq rfl listed
    exact read
  unfold payload
  rw [announced, if_neg (Nat.not_lt.mpr short), read]
  simp [reported]

/-- A report is as long as the identifiers in it. -/
theorem JobCall.sum_length_le_body (ids : List String) :
    (ids.map String.length).sum ≤ (JobCall.complete ids).request.body.utf8ByteSize := by
  refine Nat.le_trans (Json.sum_length_le_renderItems ids) (Nat.le_trans ?_ (Json.length_le_utf8ByteSize _))
  -- The items stand between brackets, behind the name of their member.
  simp only [JobCall.request, Json.render, Json.renderMembers, String.length_append]
  omega

/-- A report that is too long is refused, whatever it says. -/
theorem payload_long {ids : List String} (long : contentLimit < (JobCall.complete ids).request.body.utf8ByteSize) :
    payload completedIds? (JobCall.complete ids).request = .error tooLong := by
  -- The length is looked at before anything is read.
  have announced : (JobCall.complete ids).request.contentType.any Http.announcesJson = true := by rfl
  unfold payload
  rw [announced, if_pos long]
  rfl

end Replies

/-- A call gives the same result both ways, and leaves the same coordinator. -/
def Turn.Agrees (name : Nat → String) (settings : Settings) (coordinator : Coordinator) (turn : Turn) : Prop :=
  ∃ result, (turn.inProcess name settings coordinator).1 = .ok result ∧
    (turn.served name settings coordinator).1 = .ok result ∧
    (turn.served name settings coordinator).2 = (turn.inProcess name settings coordinator).2

/-- A report of more links than the service takes in is carried out in the process, while the service refuses it and
leaves all documents as they are. -/
def Turn.RefusesLong (name : Nat → String) (settings : Settings) (coordinator : Coordinator) : Prop :=
  ∀ ids : List String, contentLimit < (JobCall.complete ids).request.body.utf8ByteSize →
    ∀ (now : Instant) (shuffle : List String → List String) (seen : Int),
      let turn : Turn := ⟨.complete ids, now, shuffle, seen⟩
      (turn.inProcess name settings coordinator).1 = .ok () ∧
        (∃ body, (turn.served name settings coordinator).1 = .error (.status 400 body)) ∧
        ∀ collection,
          (turn.served name settings coordinator).2.store.documents collection = coordinator.store.documents collection

namespace Turn

section Calls

variable {name : Nat → String} {settings : Settings} {coordinator : Coordinator} {ledger : Ledger}

/-- A call agrees if the reply to its request is read as the result that it has in the process. -/
theorem agrees_of_runs {turn : Turn} {result : turn.call.Result} {reply : Http.Reply} {later : Coordinator}
    (near : turn.inProcess name settings coordinator = (.ok result, later))
    (far : turn.reply name settings coordinator turn.call.request = (some reply, later))
    (read : turn.call.result turn.seen (some reply) = .ok result) : turn.Agrees name settings coordinator := by
  -- The reply is what the worker reads, and the store is the one that is left after it.
  refine ⟨result, by rw [near], ?_, by rw [near, served, far]⟩
  rw [served, JobCall.remote, far]
  exact read

/-- A stored rule is found, as no call fails. -/
theorem attempt_getRule (reached : ledger.Reached name coordinator) {rule : Rule} (stored : rule ∈ ledger.rules)
    (now : Instant) :
    coordinator.attempt name [] (Lease.getRule now rule.id) = (.ok rule, { coordinator with outages := [] }) :=
  -- No calls are bound to fail, so that all the coordinator has to do is to find the rule.
  reached.behind.kept.run_getRule reached.valid stored now

/-- A worker reads the first of the rules in a reply. -/
theorem result_fetchRule {rules : List Rule} (fits : ∀ rule ∈ rules, rule.Fits) (id : Option String) (seen : Int) :
    (JobCall.fetchRule id).result seen (some (success (.array (rules.map Rule.toJson)))) = .ok rules.head? := by
  -- A list of rules is written plainly, and each of them is read back.
  have plain : (Json.array (rules.map Rule.toJson)).Plain (Json.nestingLimit - 1) :=
    .array_map fun rule among => rule.toJson_plain (fits rule among)
  have items : JobCall.items (Rule.ofJson? seen) (.array (rules.map Rule.toJson)) = .ok rules :=
    JobCall.items_map fun rule among => Rule.ofJson?_members (fits rule among) seen
  simp only [JobCall.result, Option.elim, bind, Except.bind, JobCall.document_success plain, items]
  rfl

/-- A worker reads the links in a reply. -/
theorem result_allocate {links : List Link} (dated : ∀ link ∈ links, Record.IsTime link.updated)
    (ruleId worker : String) (size : Nat) (seen : Int) :
    (JobCall.allocate ruleId worker size).result seen (some (success (.array (links.map Link.toJson)))) =
      .ok links := by
  -- A list of links is written plainly, and each of them is read back.
  have plain : (Json.array (links.map Link.toJson)).Plain (Json.nestingLimit - 1) :=
    .array_map fun link among => link.toJson_plain (dated link among)
  have items : JobCall.items (Link.ofJson? seen) (.array (links.map Link.toJson)) = .ok links :=
    JobCall.items_map fun link among => Link.ofJson?_members (dated link among) seen
  simp only [JobCall.result, Option.elim, bind, Except.bind, JobCall.document_success plain, items]

/-- Any rule with work is selected alike. -/
theorem fetchAny_agrees (reached : ledger.Reached name coordinator) (now : Instant)
    (shuffle : List String → List String) (seen : Int) :
    Agrees name settings coordinator ⟨.fetchRule none, now, shuffle, seen⟩ := by
  have never : ¬(([] : List Outage) ≠ []) := by simp
  -- What is selected is a stored rule, so that it reads back, or none.
  have led : Operation.Leads name (([] : List Outage) ≠ []) (fun outcome _ =>
      ∃ found : Option Rule, outcome = .ok found ∧ ∀ rule ∈ found.toList, rule.Fits)
      (Lease.selectRule now settings.sample shuffle none) ledger := by
    refine Lease.leads_readLinks reached.valid.dated ?_ fun may => absurd may never
    refine Lease.firstActive_leads reached.valid _ [] (by simp) (fun rule among _ _ => ⟨some rule, rfl, ?_⟩)
      (fun _ => ⟨none, rfl, by simp⟩) fun may => absurd may never
    simpa using (reached.valid.usable rule among).1
  obtain ⟨after, -, found, outcome, fits⟩ := led _ (reached.armed [])
  have near : coordinator.attempt name [] (Lease.selectRule now settings.sample shuffle none) = (.ok found, _) :=
    Prod.ext outcome rfl
  -- The service selects a rule in the same way, and lists it if there is one.
  have far : coordinator.attempt name [] (serve settings now shuffle (JobCall.fetchRule none).request .readRules) =
      (.ok (some (success (.array (found.toList.map Rule.toJson)))), _) := Coordinator.run_bind_ok near _
  refine agrees_of_runs near (run_respond (method_request _) (route_request _) far) ?_
  rw [result_fetchRule fits]
  cases found <;> rfl

/-- A stored rule is fetched alike. -/
theorem fetchStored_agrees (reached : ledger.Reached name coordinator) {rule : Rule} (stored : rule ∈ ledger.rules)
    (now : Instant) (shuffle : List String → List String) (seen : Int) :
    Agrees name settings coordinator ⟨.fetchRule (some rule.id), now, shuffle, seen⟩ := by
  have usable := reached.valid.usable rule stored
  have named : rule.id ≠ "" := (Rule.named_of_missing usable.2).1
  have found := attempt_getRule reached stored now
  -- With a name no rule is selected: the one that is named is looked up, here and by the service.
  have near : inProcess name settings coordinator ⟨.fetchRule (some rule.id), now, shuffle, seen⟩ =
      (.ok (some rule), { coordinator with outages := [] }) := by
    have wanted : (some rule.id).filter (· ≠ "") = some rule.id := by simp [Option.filter, named]
    have operation : JobCall.operation settings now shuffle (.fetchRule (some rule.id)) =
        (do return some (← Lease.getRule now rule.id)) := by
      rw [JobCall.operation, Lease.selectRule, wanted]
    rw [inProcess, Coordinator.attempt, operation]
    exact Coordinator.run_bind_ok found _
  have far : coordinator.attempt name []
      (serve settings now shuffle (JobCall.fetchRule (some rule.id)).request .readRules) =
        (.ok (some (success (.array ([rule].map Rule.toJson)))), { coordinator with outages := [] }) := by
    rw [serve, read?_fetchRule named]
    exact Coordinator.run_bind_ok found _
  refine agrees_of_runs near (run_respond (method_request _) (route_request _) far) ?_
  exact result_fetchRule (by simpa using usable.1) _ seen

/-- Links of a stored rule are leased alike. -/
theorem allocate_agrees (injective : Function.Injective name) (reached : ledger.Reached name coordinator) {rule : Rule}
    (stored : rule ∈ ledger.rules) {worker : String} (worked : worker ≠ "") {size : Nat} (positive : 0 < size)
    (small : size < Word.bound) (now : Instant) (shuffle : List String → List String) (seen : Int) :
    Agrees name settings coordinator ⟨.allocate rule.id worker size, now, shuffle, seen⟩ := by
  have named : rule.id ≠ "" := (Rule.named_of_missing (reached.valid.usable rule stored).2).1
  have found := attempt_getRule reached stored now
  -- The lease itself is the same operation both ways.
  obtain ⟨leased, later, near, dated⟩ : ∃ leased later,
      inProcess name settings coordinator ⟨.allocate rule.id worker size, now, shuffle, seen⟩ = (.ok leased, later) ∧
        ∀ link ∈ leased, Record.IsTime link.updated := by
    obtain ⟨outcome, -⟩ := @Ledger.Reached.lease name ledger coordinator injective reached rule.id
      ⟨now, worker, size⟩ worked
    refine ⟨_, _, Prod.ext outcome rfl, fun link leased => ?_⟩
    obtain ⟨before, -, rfl⟩ := List.mem_map.mp leased
    exact now.2
  have far : coordinator.attempt name []
      (serve settings now shuffle (JobCall.allocate rule.id worker size).request .leaseLinks) =
        (.ok (some (success (.array (leased.map Link.toJson)))), later) := by
    rw [serve, read?_allocate named worked positive small]
    exact (Coordinator.run_bind_ok found _).trans (Coordinator.run_bind_ok near _)
  refine agrees_of_runs near (run_respond (method_request _) (route_request _) far) ?_
  exact result_allocate dated rule.id worker size seen

/-- Nothing but a failing call could keep links from being completed. -/
theorem complete_succeeds (coordinator : Coordinator) (ids : List String) (now : Int) :
    ∃ count later, coordinator.attempt name [] (Lease.complete now ids) = (.ok count, later) := by
  -- There is one call at most, and none without links.
  unfold Lease.complete
  split
  · exact ⟨0, _, rfl⟩
  · exact ⟨_, _, rfl⟩

/-- Links are completed alike. -/
theorem complete_agrees (coordinator : Coordinator) {ids : List String}
    (short : (JobCall.complete ids).request.body.utf8ByteSize ≤ contentLimit) (now : Instant)
    (shuffle : List String → List String) (seen : Int) :
    Agrees name settings coordinator ⟨.complete ids, now, shuffle, seen⟩ := by
  -- The service reads the links that the worker has written, and completes them by the same operation.
  obtain ⟨count, later, ran⟩ := @complete_succeeds name coordinator ids now
  have near : inProcess name settings coordinator ⟨.complete ids, now, shuffle, seen⟩ = (.ok (), later) :=
    Coordinator.run_bind_ok ran _
  have far : coordinator.attempt name []
      (serve settings now shuffle (JobCall.complete ids).request .completeLinks) =
        (.ok (some (success (.object []))), later) := by
    rw [serve, payload_complete short]
    exact Coordinator.run_bind_ok ran _
  refine agrees_of_runs near (run_respond (method_request _) (route_request _) far) ?_
  have read : JobCall.document (success (.object [])) = .ok (.object []) :=
    JobCall.document_success (.object (by simp))
  simp only [JobCall.result, Option.elim, bind, Except.bind, read]
  rfl

/-- A report that is too long comes through in the process only. -/
theorem refusesLong (name : Nat → String) (settings : Settings) (coordinator : Coordinator) :
    RefusesLong name settings coordinator := by
  intro ids long now shuffle seen
  obtain ⟨count, later, ran⟩ := @complete_succeeds name coordinator ids now
  -- The service refuses the request before any operation is begun.
  have far : coordinator.attempt name [] (serve settings now shuffle (JobCall.complete ids).request .completeLinks) =
      (.ok (some tooLong), { coordinator with outages := [] }) := by
    rw [serve, payload_long long]
    rfl
  have answered : reply name settings coordinator ⟨.complete ids, now, shuffle, seen⟩ (JobCall.complete ids).request =
      (some tooLong, { coordinator with outages := [] }) :=
    run_respond (method_request _) (route_request _) far
  refine ⟨congrArg Prod.fst (Coordinator.run_bind_ok ran _), ⟨tooLong.body.render, ?_⟩, fun collection => ?_⟩
  · rw [served, JobCall.remote, answered]
    rfl
  · rw [served, answered]

/-- A call whose rule is stored agrees, if it reports no more than the service takes in. -/
theorem agrees (injective : Function.Injective name) (reached : ledger.Reached name coordinator) (turn : Turn)
    (usable : turn.call.Usable ledger.rules) : turn.Agrees name settings coordinator := by
  -- By the call, each of which has a lemma of its own.
  obtain ⟨call, now, shuffle, seen⟩ := turn
  cases call with
  | fetchRule id =>
    cases id with
    | none => exact fetchAny_agrees reached now shuffle seen
    | some id =>
      obtain ⟨rule, stored, rfl⟩ := usable
      exact fetchStored_agrees reached stored now shuffle seen
  | allocate ruleId worker size =>
    obtain ⟨⟨rule, stored, rfl⟩, worked, positive, small⟩ := usable
    exact allocate_agrees injective reached stored worked positive small now shuffle seen
  | complete ids => exact complete_agrees coordinator usable now shuffle seen

/-- A call leaves the rules as they are. -/
theorem inProcess_reached (injective : Function.Injective name) (reached : ledger.Reached name coordinator)
    (turn : Turn) :
    ∃ after : Ledger, after.Reached name (turn.inProcess name settings coordinator).2 ∧
      after.rules = ledger.rules := by
  -- By the call, each of which is a request that spares the rules.
  obtain ⟨call, now, shuffle, seen⟩ := turn
  cases call with
  | fetchRule id =>
    exact @Ledger.Reached.sparesRules name injective ledger coordinator reached
      (.selectRule settings.sample shuffle id) trivial now []
  | allocate ruleId worker size =>
    exact @Ledger.Reached.sparesRules name injective ledger coordinator reached
      (.allocate ruleId worker size) trivial now []
  | complete ids =>
    have spared := @Ledger.Reached.sparesRules name injective ledger coordinator reached (.complete ids) trivial now []
    obtain ⟨count, later, ran⟩ := @complete_succeeds name coordinator ids now
    rw [show coordinator.attempt name [] ((Lease.Request.complete ids).operation now) = (.ok count, later) from ran]
      at spared
    rwa [show inProcess name settings coordinator ⟨.complete ids, now, shuffle, seen⟩ = (.ok (), later) from
      Coordinator.run_bind_ok ran _]

end Calls

end Turn

section Series

variable {name : Nat → String} {settings : Settings}

/-- Series of usable calls are indistinguishable. -/
theorem indistinguishable (injective : Function.Injective name) {coordinator : Coordinator} {ledger : Ledger}
    (reached : ledger.Reached name coordinator) (turns : List Turn)
    (usable : ∀ turn ∈ turns, turn.call.Usable ledger.rules) :
    Indistinguishable name settings coordinator coordinator turns := by
  -- By the calls: one that agrees leaves the same store, in which the others are usable still.
  induction turns generalizing coordinator ledger with
  | nil => trivial
  | cons turn rest ih =>
    obtain ⟨first, others⟩ := List.forall_mem_cons.mp usable
    obtain ⟨result, near, far, same⟩ := turn.agrees injective reached first
    obtain ⟨after, reached', rules⟩ := turn.inProcess_reached injective reached
    refine ⟨⟨result, near, far⟩, fun collection => by rw [same], ?_⟩
    rw [same]
    exact ih reached' (rules ▸ others)

/-- Whatever requests have left behind, a series of calls whose rules are stored and whose reports are not too long is
carried out alike in the process of the coordinator and by way of the service, which refuses a report that is too long
and leaves everything as it is. -/
theorem calls_indistinguishable (injective : Function.Injective name) (settings : Settings)
    (actions : List Lease.Action) :
    ∃ rules : List Rule,
      (Lease.System.after name actions).coordinator.store.documents Lease.rules = rules.map Rule.members ∧
      (∀ turns : List Turn, (∀ turn ∈ turns, turn.call.Usable rules) →
        Indistinguishable name settings (Lease.System.after name actions).coordinator
          (Lease.System.after name actions).coordinator turns) ∧
      Turn.RefusesLong name settings (Lease.System.after name actions).coordinator := by
  obtain ⟨ledger, reached⟩ := Ledger.Reached.exists_of_after injective actions
  exact ⟨ledger.rules, reached.behind.kept.rules, fun turns usable => indistinguishable injective reached turns usable,
    Turn.refusesLong name settings _⟩

/-- A worker asks for a rule, for the same one by its name and for links of it, and reports the one that it gets. -/
def sampleTurns : List Turn :=
  [⟨.fetchRule none, Lease.System.noon, id, 11⟩, ⟨.fetchRule (some "r"), Lease.System.noon, id, 11⟩,
    ⟨.allocate "r" "w" 3, Lease.System.noon, id, 12⟩, ⟨.complete [""], Lease.System.noon, id, 13⟩]

/-- After the sample rule is stored and its link generated, the worker cannot tell how its calls are carried out. -/
theorem calls_indistinguishable_sampleTurns :
    let coordinator := (Lease.System.after Lease.Supply.strokes (Lease.System.sampleDay.take 8)).coordinator
    (Turn.inProcess Lease.Supply.strokes {} coordinator ⟨.allocate "r" "w" 3, Lease.System.noon, id, 12⟩).1 =
      .ok [Lease.System.sampleLink "w" 10] ∧
    Indistinguishable Lease.Supply.strokes {} coordinator coordinator sampleTurns := by
  intro coordinator
  obtain ⟨rules, stored, agree, -⟩ :=
    calls_indistinguishable Lease.Supply.strokes_injective {} (Lease.System.sampleDay.take 8)
  -- The only rule is the sample rule, dated by the generation of its link.
  obtain rfl : rules = [{ Lease.System.sampleRule with generated := some 0 }] :=
    List.map_injective_iff.mpr Rule.members_injective (stored.symm.trans (by rfl))
  have short : (JobCall.complete [""]).request.body.utf8ByteSize ≤ contentLimit := by decide +kernel
  refine ⟨by rfl, agree sampleTurns ?_⟩
  simpa [sampleTurns, JobCall.Usable, Lease.System.sampleRule, Word.bound] using short

/-- A report of fifteen hundred links with long identifiers. -/
def longReport : List String :=
  List.replicate 1500 (String.ofList (List.replicate 1400 'a'))

/-- The coordinator takes a report in its own process that the service refuses as too long. -/
theorem longReport_told_apart :
    let coordinator := (Lease.System.after Lease.Supply.strokes []).coordinator
    let turn : Turn := ⟨.complete longReport, Lease.System.noon, id, 13⟩
    (turn.inProcess Lease.Supply.strokes {} coordinator).1 = .ok () ∧
      (∃ body, (turn.served Lease.Supply.strokes {} coordinator).1 = .error (.status 400 body)) ∧
      ¬Indistinguishable Lease.Supply.strokes {} coordinator coordinator [turn] := by
  intro coordinator turn
  -- Together the identifiers alone are longer than what the service takes in.
  have long : contentLimit < (JobCall.complete longReport).request.body.utf8ByteSize := by
    refine Nat.lt_of_lt_of_le ?_ (JobCall.sum_length_le_body longReport)
    rw [longReport, List.map_replicate, List.sum_replicate_nat, String.length_ofList, List.length_replicate]
    decide
  obtain ⟨near, ⟨body, far⟩, -⟩ :=
    Turn.refusesLong Lease.Supply.strokes {} coordinator longReport long Lease.System.noon id 13
  refine ⟨near, ⟨body, far⟩, ?_⟩
  rintro ⟨⟨result, -, same⟩, -⟩
  rw [far] at same
  cases same

end Series

end Service

end Harvest

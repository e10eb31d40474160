import Harvest.Proofs.Service.Agreement
import Harvest.Proofs.Store.Pages

/-! What the job service answers: it never fails itself, and a request that it refuses changes no document. Only a page
of rules that starts beyond all words gets no answer. -/

namespace Harvest

namespace Lease

/-- Operations in which the operations of requests follow each other, each one chosen by what came of those before. -/
inductive Operation.Made (now : Instant) {α : Type} : Operation α → Prop
  | gives (result : α) : Made now (pure result)
  | asks (request : Request) {next : request.Result → Operation α} (made : ∀ result, Made now (next result)) :
      Made now (request.operation now >>= next)

/-- What such an operation leaves behind is reached by requests. -/
theorem Operation.Made.reached {name : Nat → String} {now : Instant} {operation : Operation α}
    (made : operation.Made now) (actions : List Action) (outages : List Outage) :
    ∃ actions', (System.after name actions').coordinator =
      ((System.after name actions).coordinator.attempt name outages operation).2 := by
  -- The request in front is worked off first, and the others find what it leaves.
  induction made generalizing actions outages with
  | gives result =>
    refine ⟨actions ++ [.arm outages], ?_⟩
    rw [System.after_append_singleton]
    rfl
  | asks request made ih =>
    obtain ⟨more, ran, -⟩ := @System.run_reached name actions now outages request
    rw [Coordinator.attempt, Coordinator.run_bind, ← ran]
    cases ({ (System.after name actions).coordinator with outages }.run name (request.operation now)).1 with
    | error cause => exact ⟨actions ++ more, rfl⟩
    | ok result => exact ih result (actions ++ more) (System.after name (actions ++ more)).coordinator.outages

/-- Which calls are bound to fail next makes no difference to what is reached. -/
theorem Ledger.Reached.rearmed {name : Nat → String} {ledger : Ledger} {coordinator : Coordinator}
    (reached : ledger.Reached name coordinator) (outages : List Outage) :
    ledger.Reached name { coordinator with outages } where
  reached := by
    -- Arming the store is an action of the system, which changes nothing else.
    obtain ⟨actions, rfl⟩ := reached.reached
    exact ⟨actions ++ [.arm outages], by rw [System.after_append_singleton]; rfl⟩
  behind := ⟨reached.behind.kept, reached.behind.others, reached.behind.minted, fun _ => trivial⟩
  valid := reached.valid
  unique := reached.unique

/-- Such an operation leads from ledgers that are reached to others that are. -/
theorem Ledger.Reached.attempt_made {name : Nat → String} (injective : Function.Injective name) {ledger : Ledger}
    {coordinator : Coordinator} (reached : ledger.Reached name coordinator) {now : Instant} {outages : List Outage}
    {operation : Operation α} (made : operation.Made now) {ends : Except StoreError α → Ledger → Prop}
    (led : operation.Leads name (outages ≠ []) ends ledger) :
    ∃ after : Ledger, after.Reached name (coordinator.attempt name outages operation).2 ∧
      ends (coordinator.attempt name outages operation).1 after := by
  -- The operation is carried out by actions of the system, so that what is behind is reached.
  obtain ⟨after, behind, ended⟩ := led _ (reached.armed outages)
  obtain ⟨actions, rfl⟩ := reached.reached
  exact ⟨after, of_behind injective behind (made.reached actions outages), ended⟩

end Lease

namespace Service

open Lease (Book Coordinator Ledger Operation)

section Queries

variable {query : List (String × String)} {name text : String}

/-- A value that is read from a query is one of its values. -/
theorem mem_of_parameter? {value : String} (read : parameter? query name = some (some value)) :
    (name, value) ∈ query := by
  -- A name that the query has twice is not read at all.
  unfold parameter? at read
  split at read
  · cases read
  · rename_i other found alone
    have among : (other, found) ∈ query.filter (·.1 = name) := by simp [alone]
    obtain ⟨member, same⟩ := List.mem_filter.mp among
    obtain rfl := of_decide_eq_true same
    obtain rfl := Option.some.inj (Option.some.inj read)
    exact member
  · cases read

/-- A name that is read from a query is one of its values, and not empty. -/
theorem given_of_named {value : Option String} (read : parameter? query name = some value)
    (asked : named value = some text) : (name, text) ∈ query ∧ text ≠ "" := by
  obtain ⟨rfl, filled⟩ := Option.filter_eq_some_iff.mp asked
  exact ⟨mem_of_parameter? read, of_decide_eq_true filled⟩

/-- A rule that is asked for is given in the query. -/
theorem RulesQuery.given_of_read? {parsed : RulesQuery} (read : RulesQuery.read? query = some parsed)
    (asked : parsed.ruleId = some text) : ("ruleid", text) ∈ query ∧ text ≠ "" := by
  -- The rule is read first, and the other parameters do not change it.
  obtain ⟨value, ruled, read⟩ := Option.bind_eq_some_iff.mp read
  obtain ⟨_, -, read⟩ := Option.bind_eq_some_iff.mp read
  obtain ⟨_, -, read⟩ := Option.bind_eq_some_iff.mp read
  obtain rfl := Option.some.inj read
  exact given_of_named ruled asked

/-- A page that is asked for is given in the query, unless it is the first one. -/
theorem RulesQuery.page_of_read? {parsed : RulesQuery} (read : RulesQuery.read? query = some parsed) :
    number? query "page" = some parsed.page := by
  -- The page is read last, and it is read as it stands.
  obtain ⟨_, -, read⟩ := Option.bind_eq_some_iff.mp read
  obtain ⟨_, -, read⟩ := Option.bind_eq_some_iff.mp read
  obtain ⟨page, asked, read⟩ := Option.bind_eq_some_iff.mp read
  obtain rfl := Option.some.inj read
  exact asked

/-- What a query for links names is given in it, under the name of a rule, or as the worker. -/
theorem LinksQuery.named_of_read? {parsed : LinksQuery} (read : LinksQuery.read? query = some parsed) :
    (∃ value, parameter? query "ruleid" = some value ∧ parsed.ruleId = named value) ∧
      ∃ value, parsed.worker = named value := by
  -- The two names of the worker are read first, then the rule, and last the number of links.
  obtain ⟨worker, -, read⟩ := Option.bind_eq_some_iff.mp read
  obtain ⟨other, -, read⟩ := Option.bind_eq_some_iff.mp read
  obtain ⟨value, ruled, read⟩ := Option.bind_eq_some_iff.mp read
  obtain ⟨_, -, read⟩ := Option.bind_eq_some_iff.mp read
  obtain rfl := Option.some.inj read
  exact ⟨⟨value, ruled, rfl⟩, worker.or other, rfl⟩

/-- A body carries a value that is read from a document, or it is refused. -/
theorem payload_reads {α : Type} (read? : Json → Option α) (request : Http.Request) :
    match payload read? request with
    | .error reply => reply.status = 400
    | .ok value => ∃ document, read? document = some value := by
  -- Before a document is read, its type is looked at, and then its length.
  by_cases announced : request.contentType.any Http.announcesJson = true
  · by_cases long : contentLimit < request.body.utf8ByteSize
    · simp [payload, announced, long, tooLong, Http.Reply.refusal]
    · cases found : Json.readFirst? request.body.toList with
      | none => simp [payload, announced, long, found, Http.Reply.refusal]
      | some pair =>
        obtain ⟨document, rest⟩ := pair
        cases read : read? document with
        | none => simp [payload, announced, long, found, read, Http.Reply.refusal]
        | some value => simpa [payload, announced, long, found, read] using ⟨document, read⟩
  · simp [payload, announced, Http.Reply.refusal]

/-- A body that carries no value is refused. -/
theorem status_of_payload {α : Type} {read? : Json → Option α} {request : Http.Request} {reply : Http.Reply}
    (refused : payload read? request = .error reply) : reply.status = 400 := by
  have reads := payload_reads read? request
  rwa [refused] at reads

/-- A value that a body carries is read from a document. -/
theorem read_of_payload {α : Type} {read? : Json → Option α} {request : Http.Request} {value : α}
    (accepted : payload read? request = .ok value) : ∃ document, read? document = some value := by
  have reads := payload_reads read? request
  rwa [accepted] at reads

end Queries

/-- The query asks for a page whose start does not fit into a word. -/
def AsksFar (settings : Settings) (query : List (String × String)) : Prop :=
  ∃ number, number? query "page" = some (some number) ∧ Word.bound ≤ (number - 1) * settings.pageSize

/-- How an endpoint ends with a request if the ledger stands behind the coordinator: it gives what is asked for, or it
refuses the request and leaves the book as it is. -/
inductive Served (settings : Settings) (ledger : Ledger) (request : Http.Request) (endpoint : Endpoint) :
    Except StoreError (Option Http.Reply) → Ledger → Prop
  | gives {document : Json} {after : Ledger} (idle : endpoint = .readRules → after = ledger) :
      Served settings ledger request endpoint (.ok (some (success document))) after
  /-- The request is not one that the endpoint understands. -/
  | refuses {reply : Http.Reply} (bad : reply.status = 400) :
      Served settings ledger request endpoint (.ok (some reply)) ledger
  /-- A rule with a field missing is not stored. -/
  | incomplete {message : String} {after : Ledger} (same : after.toBook = ledger.toBook) :
      Served settings ledger request endpoint (.error (.invalidInput message)) after
  /-- The rule that is given is not stored. -/
  | unknown {id : String} (given : ("ruleid", id) ∈ request.query ∧ id ≠ "")
      (absent : ∀ rule ∈ ledger.rules, rule.id ≠ id) :
      Served settings ledger request endpoint (.error (.notFound ("rule " ++ id))) ledger
  /-- There is no page of rules that far. -/
  | breaks (reads : endpoint = .readRules) (far : AsksFar settings request.query) :
      Served settings ledger request endpoint (.ok none) ledger

section Endpoints

open Lease Operation

variable {name : Nat → String} {mayFail : Prop} {ledger : Ledger} {settings : Settings} {now : Instant}
  {shuffle : List String → List String} {request : Http.Request}

/-- Whoever reads rules is given some, or asks for one that is not stored. -/
theorem readRules_served (never : ¬mayFail) (valid : ledger.Valid) :
    Leads name mayFail (Served settings ledger request .readRules) (serve settings now shuffle request .readRules)
      ledger := by
  have fine (documents : List Json) :
      Served settings ledger request .readRules (.ok (some (success (.array documents)))) ledger :=
    .gives fun _ => rfl
  unfold serve
  cases read : RulesQuery.read? request.query with
  | none => exact leads_pure (.refuses rfl)
  | some query =>
    obtain ⟨ruleId, forWorker, page⟩ := query
    cases ruleId with
    | some id =>
      exact leads_bind (leads_getRule valid (fun rule _ _ => leads_pure (fine _))
        (fun absent => .unknown (RulesQuery.given_of_read? read rfl) absent) fun may => absurd may never)
    | none =>
      cases forWorker with
      | true =>
        -- No reading of a rule fails on the way to one that has work.
        refine leads_bind (leads_readLinks valid.dated ?_ fun may => absurd may never)
        exact firstActive_leads valid _ [] (by simp) (fun rule _ _ _ => leads_pure (fine _))
          (fun _ => leads_pure (fine _)) fun may => absurd may never
      | false =>
        -- Without a rule or a worker a page of rules is asked for, which may start beyond all words.
        cases numbered : Page.numbered (page.getD 1) settings.pageSize with
        | none =>
          obtain ⟨positive, far⟩ := Page.numbered_eq_none_iff.mp numbered
          have asked := RulesQuery.page_of_read? read
          -- The first page, which is meant when none is given, starts at the front.
          cases page with
          | none => simp [Word.bound] at far
          | some number =>
            dsimp only [Option.getD_some, Bool.false_eq_true, if_false] at numbered ⊢
            rw [numbered]
            exact leads_pure (.breaks rfl ⟨number, asked, far⟩)
        | some found =>
          dsimp only [Bool.false_eq_true, if_false]
          rw [numbered]
          exact leads_bind (leads_listRules valid.usable (leads_pure (fine _)) fun may => absurd may never)

/-- Whoever stores a rule is given it back, or has left out a field. -/
theorem storeRule_served (never : ¬mayFail) :
    Leads name mayFail (Served settings ledger request .storeRule) (serve settings now shuffle request .storeRule)
      ledger := by
  unfold serve
  cases carried : payload (Rule.ofJson? now) request with
  | error reply => exact leads_pure (.refuses (status_of_payload carried))
  | ok given =>
    -- A rule that is refused may have used up an identifier, but it has come to no document.
    refine leads_bind ((upsertRule_upserts given).imp fun outcome after upserts => ?_)
    cases upserts with
    | stores complete book => exact leads_pure (.gives nofun)
    | refuses incomplete book => exact .incomplete book
    | fails may book => exact absurd may never

/-- Whoever leases links is given those that there are, or gives no rule that is stored. -/
theorem leaseLinks_served (never : ¬mayFail) (valid : ledger.Valid) (unique : (ledger.links.map Link.id).Nodup) :
    Leads name mayFail (Served settings ledger request .leaseLinks) (serve settings now shuffle request .leaseLinks)
      ledger := by
  unfold serve
  cases read : LinksQuery.read? request.query with
  | none => exact leads_pure (.refuses rfl)
  | some query =>
    obtain ⟨⟨value, ruled, sameRule⟩, value', sameWorker⟩ := LinksQuery.named_of_read? read
    obtain ⟨ruleId, worker, size⟩ := query
    cases ruleId with
    | none => exact leads_pure (.refuses rfl)
    | some id =>
      cases worker with
      | none => exact leads_pure (.refuses rfl)
      | some worker =>
        -- The rule is looked up before any of its links is leased.
        have working : worker ≠ "" :=
          of_decide_eq_true (Option.filter_eq_some_iff.mp sameWorker.symm).2
        refine leads_bind (leads_getRule valid (fun rule _ _ => ?_)
          (fun absent => .unknown (given_of_named ruled sameRule.symm) absent) fun may => absurd may never)
        refine leads_bind ((allocate_hands never valid.dated unique now id working _).imp ?_)
        rintro outcome after ⟨rfl, rfl⟩
        exact leads_pure (.gives nofun)

/-- Whoever completes links is told so. -/
theorem completeLinks_served (never : ¬mayFail) :
    Leads name mayFail (Served settings ledger request .completeLinks)
      (serve settings now shuffle request .completeLinks) ledger := by
  -- A body that is not read is refused at once; otherwise only a failing call could keep links open.
  unfold serve
  cases carried : payload completedIds? request with
  | error reply => exact leads_pure (.refuses (status_of_payload carried))
  | ok ids =>
    refine leads_bind ?_
    unfold complete
    split
    · exact leads_pure (leads_pure (.gives nofun))
    · exact leads_updateLinks (fun link => link.chosen_open ids) (fun link => link.members_extend_stamp ..)
        (leads_pure (.gives nofun)) fun may => absurd may never

/-- An endpoint ends with every request in one of these ways. -/
theorem serve_served (never : ¬mayFail) (valid : ledger.Valid) (unique : (ledger.links.map Link.id).Nodup)
    (endpoint : Endpoint) :
    Leads name mayFail (Served settings ledger request endpoint) (serve settings now shuffle request endpoint)
      ledger := by
  -- By the endpoint, each of which has a lemma of its own.
  cases endpoint with
  | readRules => exact readRules_served never valid
  | storeRule => exact storeRule_served never
  | leaseLinks => exact leaseLinks_served never valid unique
  | completeLinks => exact completeLinks_served never

/-- The operations at the endpoints are made of requests. -/
theorem serve_made (endpoint : Endpoint) : (serve settings now shuffle request endpoint).Made now := by
  unfold serve
  -- By the endpoint and what is asked of it, down to the requests that are made.
  cases endpoint with
  | readRules =>
    dsimp only
    split
    · exact .gives _
    · split
      · exact .asks (.getRule _) fun _ => .gives _
      · split
        · exact .asks (.selectRule settings.sample shuffle none) fun _ => .gives _
        · split
          · exact .gives _
          · exact .asks (.listRules _) fun _ => .gives _
  | storeRule =>
    dsimp only
    split
    · exact .gives _
    · rename_i rule accepted
      -- Whatever is accepted as a rule fits into a document again.
      obtain ⟨document, read⟩ := read_of_payload accepted
      exact .asks (.upsertRule rule (Rule.fits_of_ofJson? read)) fun _ => .gives _
  | leaseLinks =>
    dsimp only
    split
    · exact .gives _
    · split
      · exact .gives _
      · exact .gives _
      · exact .asks (.getRule _) fun _ => .asks (.allocate _ _ _) fun _ => .gives _
  | completeLinks =>
    dsimp only
    split
    · exact .gives _
    · exact .asks (.complete _) fun _ => .gives _

end Endpoints

/-- A request to the service, with the clock of the coordinator and the order in which it looks at links. -/
structure Visit where
  request : Http.Request
  now : Instant
  shuffle : List String → List String

namespace Visit

/-- What a visit is answered with, if at all, and the coordinator that it leaves behind. -/
def reply (name : Nat → String) (settings : Settings) (coordinator : Coordinator) (visit : Visit) :
    Option Http.Reply × Coordinator :=
  (respond settings visit.now visit.shuffle visit.request).run (Coordinator.answer name)
    { coordinator with outages := [] }

/-- The coordinator after visits. -/
def visited (name : Nat → String) (settings : Settings) (coordinator : Coordinator) (visits : List Visit) :
    Coordinator :=
  visits.foldl (fun coordinator visit => (visit.reply name settings coordinator).2) coordinator

/-- The visit changes no document. -/
def Idle (name : Nat → String) (settings : Settings) (coordinator : Coordinator) (visit : Visit) : Prop :=
  ∀ collection, (visit.reply name settings coordinator).2.store.documents collection =
    coordinator.store.documents collection

/-- What the answer to a visit tells, if the book stands behind the documents. -/
structure Answered (name : Nat → String) (settings : Settings) (coordinator : Coordinator) (book : Book)
    (visit : Visit) : Prop where
  /-- Only a page of rules that starts beyond all words gets no answer. -/
  silent : (visit.reply name settings coordinator).1 = none →
    route visit.request = .endpoint .readRules ∧ AsksFar settings visit.request.query
  /-- The service itself does not fail. -/
  status : ∀ reply ∈ (visit.reply name settings coordinator).1, reply.status ∈ [200, 400, 404, 405]
  /-- A request that is refused changes no document. -/
  refused : ∀ reply ∈ (visit.reply name settings coordinator).1, 400 ≤ reply.status →
    visit.Idle name settings coordinator
  /-- Neither does one that reads rules. -/
  reading : visit.request.method = "GET" → visit.request.path = root ++ "/rules" →
    visit.Idle name settings coordinator
  /-- What an endpoint does not find is a rule that was given. -/
  missing : ∀ endpoint, route visit.request = .endpoint endpoint →
    ∀ reply ∈ (visit.reply name settings coordinator).1, reply.status = 404 →
    ∃ id, (("ruleid", id) ∈ visit.request.query ∧ id ≠ "") ∧ ∀ rule ∈ book.rules, rule.id ≠ id

variable {name : Nat → String} {settings : Settings} {coordinator : Coordinator} {ledger : Ledger} {book : Book}
  {visit : Visit}

/-- A reply is shown with its status, if not in full. -/
theorem status_replied (request : Http.Request) (reply : Http.Reply) :
    ∃ shown, replied request (.ok (some reply)) = some shown ∧ shown.status = reply.status := by
  refine ⟨_, rfl, ?_⟩
  split <;> rfl

/-- A request at an endpoint is answered as the endpoint ends with it. -/
theorem reply_endpoint {endpoint : Endpoint} (routed : route visit.request = .endpoint endpoint) :
    visit.reply name settings coordinator =
      (replied visit.request
          (coordinator.attempt name [] (serve settings visit.now visit.shuffle visit.request endpoint)).1,
        (coordinator.attempt name [] (serve settings visit.now visit.shuffle visit.request endpoint)).2) :=
  run_endpoint routed _

/-- A request that leads to no endpoint comes to nothing. -/
theorem reply_astray (astray : ∀ endpoint, route visit.request ≠ .endpoint endpoint) :
    ∃ shown, visit.reply name settings coordinator = (some shown, { coordinator with outages := [] }) ∧
      shown.status ∈ [200, 404, 405] := by
  -- An inquiry is welcomed, and anything else is not found or not allowed.
  unfold reply respond
  split
  · exact ⟨_, rfl, (by decide : 200 ∈ [200, 404, 405])⟩
  · split
    · exact ⟨_, rfl, (by decide : 404 ∈ [200, 404, 405])⟩
    · exact ⟨_, rfl, (by decide : 405 ∈ [200, 404, 405])⟩
    · rename_i endpoint routed
      exact absurd routed (astray endpoint)

/-- Where a visit changes no document, its answer tells the truth if it tells what was not found. -/
theorem Answered.of_idle {shown : Http.Reply} (replies : (visit.reply name settings coordinator).1 = some shown)
    (idle : visit.Idle name settings coordinator) (status : shown.status ∈ [200, 400, 404, 405])
    (missing : ∀ endpoint, route visit.request = .endpoint endpoint → shown.status = 404 →
      ∃ id, (("ruleid", id) ∈ visit.request.query ∧ id ≠ "") ∧ ∀ rule ∈ book.rules, rule.id ≠ id) :
    visit.Answered name settings coordinator book := by
  -- There is one reply only, and nothing is changed with it.
  have only : ∀ reply ∈ (visit.reply name settings coordinator).1, reply = shown := fun reply given =>
    (Option.some.inj (replies.symm.trans given)).symm
  exact {
    silent := fun nothing => by simp [replies] at nothing
    status := fun reply given => only reply given ▸ status
    refused := fun _ _ _ => idle
    reading := fun _ _ => idle
    missing := fun endpoint routed reply given => only reply given ▸ missing endpoint routed }

/-- Where a visit changes no document and is said to be at fault, nothing was looked for in vain. -/
theorem Answered.of_bad {shown : Http.Reply} (replies : (visit.reply name settings coordinator).1 = some shown)
    (idle : visit.Idle name settings coordinator) (bad : shown.status = 400) :
    visit.Answered name settings coordinator book :=
  .of_idle replies idle (by simp [bad]) fun _ _ lost => by simp [bad] at lost

/-- The answer to a visit at an endpoint tells what the endpoint came to. -/
theorem Answered.of_served {endpoint : Endpoint} (routed : route visit.request = .endpoint endpoint)
    {outcome : Except StoreError (Option Http.Reply)} {later : Coordinator} {after : Ledger}
    (replies : visit.reply name settings coordinator = (replied visit.request outcome, later))
    (served : Served settings ledger visit.request endpoint outcome after)
    (same : after.toBook = ledger.toBook → ∀ collection,
      later.store.documents collection = coordinator.store.documents collection) :
    visit.Answered name settings coordinator ledger.toBook := by
  rw [show later = (visit.reply name settings coordinator).2 by rw [replies]] at same
  have first : (visit.reply name settings coordinator).1 = replied visit.request outcome := congrArg Prod.fst replies
  cases served with
  | @gives document after still =>
    obtain ⟨shown, shows, fine⟩ := status_replied visit.request (success document)
    have only : ∀ reply ∈ (visit.reply name settings coordinator).1, reply.status = 200 := fun reply given => by
      rw [← Option.some.inj ((first.trans shows).symm.trans given)]
      exact fine
    refine {
      silent := fun nothing => by simp [first.trans shows] at nothing
      status := fun reply given => by simp [only reply given]
      refused := fun reply given bad => by simp [only reply given] at bad
      reading := fun gets asks => same (congrArg Ledger.toBook (still ?_))
      missing := fun _ _ reply given lost => by simp [only reply given] at lost }
    -- Only the endpoint that reads rules is found in this way.
    rw [route, if_pos asks, routeOf, if_pos (.inl gets)] at routed
    exact (Route.endpoint.inj routed).symm
  | @refuses reply bad =>
    obtain ⟨shown, shows, status⟩ := status_replied visit.request reply
    exact .of_bad (first.trans shows) (same rfl) (status.trans bad)
  | @incomplete message after unchanged =>
    obtain ⟨shown, shows, status⟩ := status_replied visit.request (failure (.invalidInput message))
    exact .of_bad (first.trans shows) (same unchanged) status
  -- The rule that was not found is the one that was asked for.
  | @unknown id given absent =>
    obtain ⟨shown, shows, status⟩ := status_replied visit.request (failure (.notFound ("rule " ++ id)))
    have lost : shown.status = 404 := status
    exact .of_idle (first.trans shows) (same rfl) (by simp [lost]) fun _ _ _ => ⟨id, given, absent⟩
  | breaks reads far =>
    -- Without a reply there is nothing else to tell.
    have silent : (visit.reply name settings coordinator).1 = none := first
    exact {
      silent := fun _ => ⟨reads ▸ routed, far⟩
      status := fun reply given => by simp [silent] at given
      refused := fun reply given => by simp [silent] at given
      reading := fun _ _ => same rfl
      missing := fun _ _ reply given => by simp [silent] at given }

/-- A visit leads from a ledger that is reached to another one, and its answer tells what became of it. -/
theorem answered (injective : Function.Injective name) (reached : ledger.Reached name coordinator) (visit : Visit) :
    (∃ after : Ledger, after.Reached name (visit.reply name settings coordinator).2) ∧
      visit.Answered name settings coordinator ledger.toBook := by
  -- Only at an endpoint is anything asked of the store.
  by_cases astray : ∀ endpoint, route visit.request ≠ .endpoint endpoint
  · obtain ⟨shown, replies, status⟩ := @reply_astray name settings coordinator visit astray
    refine ⟨⟨ledger, by rw [replies]; exact reached.rearmed []⟩,
      .of_idle (congrArg Prod.fst replies) (fun collection => by rw [replies]) ?_
        fun endpoint routed => absurd routed (astray endpoint)⟩
    simp only [List.mem_cons] at status ⊢
    tauto
  · push Not at astray
    obtain ⟨endpoint, routed⟩ := astray
    have replies := @reply_endpoint name settings coordinator visit endpoint routed
    obtain ⟨after, reached', served⟩ := reached.attempt_made injective (serve_made endpoint)
      (@serve_served name (([] : List Outage) ≠ []) ledger settings visit.now visit.shuffle visit.request (by simp)
        reached.valid reached.unique endpoint)
    exact ⟨⟨after, replies ▸ reached'⟩,
      .of_served routed replies served (reached.behind.documents_eq reached'.behind)⟩

/-- A ledger is reached after every series of visits. -/
theorem reached_visited (injective : Function.Injective name) (reached : ledger.Reached name coordinator)
    (visits : List Visit) : ∃ after : Ledger, after.Reached name (visited name settings coordinator visits) := by
  -- By the visits, each of which leaves a ledger that is reached.
  induction visits generalizing coordinator ledger with
  | nil => exact ⟨ledger, reached⟩
  | cons visit rest ih =>
    obtain ⟨⟨after, reached'⟩, -⟩ := @answered name settings coordinator ledger injective reached visit
    exact ih reached'

end Visit

/-- Whatever operations and visits have left behind, no visit makes the service fail but for a page of rules that starts
beyond all words, and one that is refused changes nothing. -/
theorem refusals_change_nothing {name : Nat → String} (injective : Function.Injective name) (settings : Settings)
    (actions : List Lease.Action) (visits : List Visit) :
    ∃ book : Book,
      book.Kept (Visit.visited name settings (Lease.System.after name actions).coordinator visits).store ∧
      ∀ visit : Visit, visit.Answered name settings
        (Visit.visited name settings (Lease.System.after name actions).coordinator visits) book := by
  -- What was reached before the last visit is a ledger, by which its answer is told.
  obtain ⟨before, reached⟩ := Ledger.Reached.exists_of_after injective actions
  obtain ⟨ledger, reached'⟩ := @Visit.reached_visited name settings _ before injective reached visits
  exact ⟨ledger.toBook, reached'.behind.kept, fun visit => (visit.answered injective reached').2⟩

/-- On the sample day the only link is leased. Then a rule without a pattern is refused, and so is a lease of links of
a rule that is not there. -/
theorem refusals_change_nothing_sampleDay :
    let coordinator := Visit.visited Lease.Supply.strokes {}
      (Lease.System.after Lease.Supply.strokes (Lease.System.sampleDay.take 8)).coordinator
      [⟨{ path := root ++ "/links", query := [("ruleid", "r"), ("worker", "w")] }, Lease.System.noon, id⟩]
    coordinator.store.documents Lease.links = [(Lease.System.sampleLink "w" 10).members] ∧
    (Visit.reply Lease.Supply.strokes {} coordinator
      ⟨{ method := "POST", path := root ++ "/rules", contentType := some "application/json",
         body := "\x7b\"id\":\"r\"\x7d" }, Lease.System.noon, id⟩).1.map Http.Reply.status = some 400 ∧
    (Visit.reply Lease.Supply.strokes {} coordinator
      ⟨{ path := root ++ "/links", query := [("ruleid", "q"), ("scraper", "w")] },
        Lease.System.noon, id⟩).1.map Http.Reply.status = some 404 ∧
    ∃ book : Book, book.Kept coordinator.store ∧
      ∀ visit : Visit, visit.Answered Lease.Supply.strokes {} coordinator book :=
  ⟨by rfl, by decide +kernel, by decide +kernel, refusals_change_nothing Lease.Supply.strokes_injective {} _ _⟩

end Service

end Harvest

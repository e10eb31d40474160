import Harvest.Proofs.Crawl.Attempts
import Harvest.Proofs.Crawl.Balance
import Mathlib.Algebra.GroupWithZero.Nat

/-! The counters of a crawl add up. Each of them is a number of visits of a kind, and what was queued is what was
visited and what is yet to be visited. -/

namespace Harvest.Metrics

/-- The failures of all statuses. -/
def failures (metrics : Metrics) : Nat :=
  (metrics.failuresByStatus.map (·.2)).sum

/-- One more failure of a status is one more of all. -/
theorem sum_addFailure (status : Nat) (counts : List (Nat × Nat)) :
    ((addFailure status counts).map (·.2)).sum = (counts.map (·.2)).sum + 1 := by
  -- It comes in before a higher status, joins its own one, or goes on behind a lower one.
  induction counts with
  | nil => rfl
  | cons first rest ih =>
    obtain ⟨other, count⟩ := first
    rw [addFailure]
    split
    · simp only [List.map_cons, List.sum_cons]
      omega
    · split
      · simp only [List.map_cons, List.sum_cons]
        omega
      · simp only [List.map_cons, List.sum_cons, ih]
        omega

end Harvest.Metrics

namespace Harvest.Crawl

/-- The kinds of visits that have counters of their own. -/
inductive Finding.Kind where
  | failed | listing | record | wrongPage | invalid
  deriving DecidableEq, Repr

/-- The kind of what is found. -/
def Finding.kind : Finding → Kind
  | failed => .failed
  | page (.listing _) => .listing
  | page (.record _) => .record
  | page .wrongPage => .wrongPage
  | page .invalid => .invalid

/-- The number of visits of a kind. -/
def visitsOfKind (kind : Finding.Kind) (visits : List Visit) : Nat :=
  visits.countP fun visit => visit.finding.kind = kind

/-- Every visit is of one of the kinds. -/
theorem length_eq_visitsOfKind (visits : List Visit) : visits.length =
    visitsOfKind .failed visits + visitsOfKind .listing visits + visitsOfKind .record visits +
      visitsOfKind .wrongPage visits + visitsOfKind .invalid visits := by
  -- Each visit adds one to the count of its own kind.
  induction visits with
  | nil => rfl
  | cons visit rest ih =>
    simp only [visitsOfKind, List.countP_cons, List.length_cons] at ih ⊢
    cases visit.finding.kind <;> simp <;> omega

/-- The attempt that an event makes comes from its outcome. -/
theorem State.attempt_of_attempt? {plan : Plan} {state : State} {event : Event} {attempt : Attempt}
    (made : state.attempt? plan event = some attempt) :
    attempt = state.attempt plan attempt.target attempt.outcome := by
  -- No other event, and no other phase, has an attempt.
  unfold attempt? at made
  split at made
  · split at made
    · split at made
      · obtain ⟨after, -, rfl⟩ := Option.map_eq_some_iff.mp made
        rfl
      · cases made
    · cases made
  · cases made

/-- The request of an attempt counts as a success if a page is found. -/
theorem State.request_attempt (plan : Plan) (state : State) (target : Target) (outcome : Outcome) :
    ∃ status bytes, outcome.request =
      .request (decide ((state.attempt plan target outcome).finding.kind ≠ .failed)) 0 status bytes := by
  -- Without an answer, or with one of an error, no page is found.
  cases outcome with
  | disconnected => exact ⟨none, 0, rfl⟩
  | answered status cookies body =>
    by_cases failed : 400 ≤ status
    · exact ⟨some status, 0, by simp [Outcome.request, attempt, find, Finding.kind, failed]⟩
    · refine ⟨some status, body.utf8ByteSize, ?_⟩
      simp only [Outcome.request, attempt, find, if_neg failed]
      cases Content.ofPage plan.pattern plan.listing target.url body (state.queue.parentValue target.url) <;> rfl

/-- What the counters of a crawl are, by its visits. -/
structure Tells (giveUpAfter : Nat) (visits : List Visit) (metrics : Metrics) : Prop where
  total : metrics.totalRequests = visits.length
  failed : metrics.failedRequests = visitsOfKind .failed visits
  successful : metrics.successfulRequests + visitsOfKind .failed visits = visits.length
  failures : metrics.failures = visitsOfKind .failed visits
  records : metrics.records = visitsOfKind .record visits
  wrongPages : metrics.wrongPages = visitsOfKind .wrongPage visits
  invalidPages : metrics.invalidPages = visitsOfKind .invalid visits
  deepLinks : metrics.deepLinks = (discovered visits).length
  requeues : metrics.requeues = (returned giveUpAfter visits).length
  retries : metrics.requeues + metrics.giveUps = visitsOfKind .failed visits + visitsOfKind .wrongPage visits

namespace Tells

variable {giveUpAfter : Nat} {visits : List Visit} {metrics : Metrics}

/-- An attempt moves the counters of its kind. -/
theorem attempt (tells : Tells giveUpAfter visits metrics) {attempt : Attempt} {status : Option Nat} {bytes : Nat}
    (request : attempt.outcome.request = .request (decide (attempt.finding.kind ≠ .failed)) 0 status bytes)
    (again : attempt.again = attempt.toVisit.returns giveUpAfter visits) :
    Tells giveUpAfter (visits ++ [attempt.toVisit]) (attempt.counted.foldl Metrics.count metrics) := by
  -- Each of the numbers that are told grows by what the attempt adds to it.
  have kinds (kind : Finding.Kind) : visitsOfKind kind (visits ++ [attempt.toVisit]) =
      visitsOfKind kind visits + if attempt.finding.kind = kind then 1 else 0 := by
    simp only [visitsOfKind, List.countP_append, List.countP_singleton, decide_eq_true_eq]
  have details : (discovered (visits ++ [attempt.toVisit])).length =
      (discovered visits).length + attempt.details.length := by
    simp [discovered]
  have back : (returned giveUpAfter (visits ++ [attempt.toVisit])).length =
      (returned giveUpAfter visits).length + if attempt.again then 1 else 0 := by
    rw [returned_append_singleton, List.length_append, again]
    split <;> rfl
  -- Only a failure is put back, and only a listing names detail pages.
  have settled (kept : attempt.finding.fails = false) : attempt.again = false := by
    rw [again, Visit.returns, kept, Bool.false_and]
  have unlisted (nothing : attempt.finding.listed = []) : attempt.details.length = 0 := by
    simp [Visit.details, nothing]
  obtain ⟨total, failed, successful, failures, records, wrongPages, invalidPages, deepLinks, requeues, retries⟩ :=
    tells
  rw [Metrics.failures] at failures
  clear again
  obtain ⟨⟨target, finding⟩, outcome, again⟩ := attempt
  -- What is counted depends on the finding alone, and a failure may be put back or not.
  cases finding with
  | failed =>
    simp only [Attempt.counted, Attempt.retried, request, List.foldl_cons, Metrics.count]
    cases again <;> constructor <;>
      simp [kinds, details, back, unlisted rfl, Finding.kind, Metrics.failures, Metrics.sum_addFailure] <;> omega
  | page content =>
    cases content with
    | wrongPage =>
      simp only [Attempt.counted, Attempt.retried, request, List.foldl_cons, Metrics.count]
      cases again <;> constructor <;>
        simp [kinds, details, back, unlisted rfl, Finding.kind, Metrics.failures] <;> omega
    | listing pages =>
      obtain rfl : again = false := settled rfl
      simp only [Attempt.counted, request, List.foldl_cons, Metrics.count]
      constructor <;> simp [kinds, details, back, Finding.kind, Metrics.failures] <;> omega
    | record fields =>
      obtain rfl : again = false := settled rfl
      simp only [Attempt.counted, request, List.foldl_cons, Metrics.count]
      constructor <;>
        simp [kinds, details, back, unlisted rfl, Finding.kind, Metrics.failures] <;> omega
    | invalid =>
      obtain rfl : again = false := settled rfl
      simp only [Attempt.counted, request, List.foldl_cons, Metrics.count]
      constructor <;>
        simp [kinds, details, back, unlisted rfl, Finding.kind, Metrics.failures] <;> omega

end Tells

/-- The counters of a crawl tell its visits. -/
theorem tells_after (plan : Plan) (events : List Event) :
    Tells plan.settings.giveUpAfter (visits plan events) (History.after plan events).state.metrics := by
  induction events using List.reverseRecOn with
  | nil => constructor <;> rfl
  | append_singleton events event ih =>
    have moved := State.step_metrics plan (History.after plan events).state event
    rw [History.after_append_singleton, visits_append_singleton, State.visit?_eq]
    simp only [History.step, moved]
    -- An event that answers no open target is no attempt and counts nothing.
    cases tried : (History.after plan events).state.attempt? plan event with
    | none => simpa using ih
    | some attempt =>
      have own := State.attempt_of_attempt? tried
      obtain ⟨status, bytes, request⟩ :=
        State.request_attempt plan (History.after plan events).state attempt.target attempt.outcome
      rw [← own] at request
      -- The queue has counted the failures that the visits tell.
      obtain ⟨limit, counted⟩ := (schedule_run plan events).1.attempts
      simp only [State.schedule] at limit counted
      have again : attempt.again = attempt.toVisit.returns plan.settings.giveUpAfter (visits plan events) := by
        rw [own, State.attempt, Visit.returns, Queue.putsBack, limit, counted]
      simpa using ih.attempt request again

/-- How a crawl goes on after an outcome does not change its report. -/
theorem State.afterOutcome_report (unanswered : List Target) (state : State) :
    (state.afterOutcome unanswered).report = state.report := by
  -- It waits for other outcomes, begins another cycle or asks for links, all with the same report.
  unfold afterOutcome
  split
  · rfl
  · split <;> rfl

/-- A visit gives a record exactly if its page is one. -/
theorem isSome_record? (visit : Visit) : visit.record?.isSome = decide (visit.finding.kind = .record) := by
  -- By what the visit finds.
  obtain ⟨target, finding⟩ := visit
  cases finding with
  | failed => rfl
  | page content => cases content <;> rfl

/-- The records that a visit gives are as many as the visit is of their kind. -/
theorem length_record? (visit : Visit) : visit.record?.toList.length = visitsOfKind .record [visit] := by
  rw [Option.length_toList, isSome_record?, visitsOfKind, List.countP_singleton]

/-- The records that a crawl counts, while it goes on and in the report that it ends with. -/
structure State.Counts (state : State) (records : Nat) : Prop where
  running : state.report.records = records
  ended : ∀ report, state.phase.report? = some report → report.records = records

namespace State.Counts

variable {state : State} {records : Nat}

/-- A crawl that has not come to a good end counts in its own report. -/
theorem of_running (running : state.report.records = records) (goesOn : state.phase.report? = none) :
    state.Counts records :=
  ⟨running, fun report ended => by rw [goesOn] at ended; cases ended⟩

/-- While flushes in the background may begin, there is no such end. -/
theorem of_hasFlusher (running : state.report.records = records) (flusher : state.hasFlusher = true) :
    state.Counts records := by
  -- A phase with a report has no flusher any more.
  refine of_running running ?_
  unfold State.hasFlusher at flusher
  cases same : state.phase <;> simp_all [Phase.report?]

/-- The report that a crawl ends with has the records of its own one. -/
theorem finish (running : state.report.records = records) (stopped : Bool) :
    (state.finish stopped).Counts records := by
  -- A crawl that is stopped ends without a report of its own.
  refine ⟨running, fun report ended => ?_⟩
  cases stopped with
  | true => cases ended
  | false => exact Option.some_inj.mp ended ▸ running

/-- The last flush counts no records. -/
theorem store (running : state.report.records = records) (stopped : Bool) (next : Option Writing) :
    (state.store stopped next).Counts records := by
  -- There is another write to wait for, or the report, or the crawl is over.
  cases next with
  | some writing => exact of_running running rfl
  | none =>
    by_cases nothing : state.queue.completed.isEmpty = true
    · simp only [State.store, State.report?, if_pos nothing]
      exact finish running stopped
    · simp only [State.store, State.report?, if_neg nothing]
      exact of_running running rfl

end State.Counts

/-- Every move counts the record of its visit. -/
theorem Move.counts {plan : Plan} {before after : State} {event : Event} (move : Move plan before event after)
    {records : Nat} (counts : before.Counts records) :
    after.Counts (records + visitsOfKind .record (before.visit? plan event).toList) := by
  -- Most moves visit nothing and lead to a phase without a report.
  have running := counts.running
  cases move with
  | rests phase queue report unleased unvisited =>
    rw [unvisited]
    exact ⟨report ▸ running, phase ▸ counts.ended⟩
  | leases waits => exact .of_hasFlusher running (Stage.proceed_hasFlusher _)
  | fails waits => exact .of_running running rfl
  | runsDry waits => exact .of_hasFlusher running (Stage.proceed_hasFlusher _)
  | @checks late waits => cases late <;> exact .of_running running rfl
  | @rechecks late waits => cases late <;> exact .of_running running rfl
  | begins waits => exact .of_running running rfl
  | stops waits => exact .of_running running rfl
  | @visits index outcome moment unanswered target after waits stands handled unleased =>
    rw [State.visit?_fetched waits stands handled, Option.toList_some]
    refine .of_hasFlusher ?_ (Stage.afterOutcome_hasFlusher ..)
    rw [State.afterOutcome_report, (handle_handled handled).report, ← running, ← length_record?]
  | breaks waits stands stuck unleased =>
    rw [State.visit?_broken waits stands stuck]
    exact .of_running running rfl
  | stores waits unleased unvisited =>
    rw [unvisited]
    exact .store (by exact running) ..
  | loses waits unleased => exact .of_running running rfl
  | reports waits => exact .finish (by exact running) _

/-- The report of a crawl counts the records that its visits give. -/
theorem counts_after (plan : Plan) (events : List Event) :
    (History.after plan events).state.Counts (visitsOfKind .record (visits plan events)) := by
  -- Each event is a move.
  induction events using List.reverseRecOn with
  | nil => exact .of_running rfl rfl
  | append_singleton events event ih =>
    rw [History.after_append_singleton, visits_append_singleton, visitsOfKind, List.countP_append]
    exact (step_move plan (History.after plan events).state event).counts ih

/-- As many records are extracted as visits give one. -/
theorem length_extractedIn (plan : Plan) (events : List Event) :
    (extractedIn (History.after plan events).log).length = visitsOfKind .record (visits plan events) := by
  -- The records are those that were extracted, and each of them is that of a visit.
  calc (extractedIn (History.after plan events).log).length
      = (recordsIn (History.after plan events).log).length := by
        rw [extractedIn_eq, recordsIn, List.length_map, List.length_map]
    _ = visitsOfKind .record (visits plan events) := by
        simp only [recordsIn_after, List.length_filterMap_eq_countP, isSome_record?, visitsOfKind]

/-- How the counters of a crawl add up, by its visits. -/
structure Reconciled (history : History) (visits : List Visit) : Prop where
  /-- Each visit is a request, which succeeds or fails. -/
  requests : history.state.metrics.totalRequests = visits.length ∧ history.state.metrics.totalRequests =
    history.state.metrics.successfulRequests + history.state.metrics.failedRequests
  /-- Each failure has a status of its own. -/
  failures : history.state.metrics.failures = history.state.metrics.failedRequests
  /-- Whatever is to be tried again is put back or given up. -/
  retries : history.state.metrics.requeues + history.state.metrics.giveUps =
    history.state.metrics.wrongPages + history.state.metrics.failedRequests
  /-- A page is a record, of no use, the wrong one, or a listing. -/
  pages : history.state.metrics.successfulRequests = history.state.metrics.records +
    history.state.metrics.invalidPages + history.state.metrics.wrongPages + visitsOfKind .listing visits
  /-- The records are those of the report, while the crawl goes on and at its end. -/
  reported : history.state.report.records = history.state.metrics.records ∧
    ∀ report, history.state.phase.report? = some report → report.records = history.state.metrics.records
  /-- They are those that came into the buffer: each is there, on its way to the sink, or with the sink. -/
  buffered : (extractedIn history.log).length = history.state.metrics.records ∧
    acceptedIn history.log ++ history.state.inFlight ++ history.state.buffer.records = extractedIn history.log
  /-- What was seeded is what the report counts as leased. -/
  seeded : history.state.report.allocated = (batchesIn history.log).flatten.length
  /-- Whatever was queued is visited or yet to be visited. -/
  targets : (batchesIn history.log).flatten.length + history.state.metrics.deepLinks +
      history.state.metrics.requeues =
    history.state.metrics.totalRequests + history.state.schedule.outstanding.length
  /-- Between two cycles, all that is yet to be visited is queued. -/
  between : history.state.unanswered = [] → (batchesIn history.log).flatten.length +
      history.state.metrics.deepLinks + history.state.metrics.requeues =
    history.state.metrics.totalRequests + history.state.queue.pending.length

/-- The counters of a crawl add up, whatever happens around it. -/
theorem counters_add_up (plan : Plan) (events : List Event) :
    Reconciled (History.after plan events) (visits plan events) := by
  have tells := tells_after plan events
  have counts := counts_after plan events
  have extracted := length_extractedIn plan events
  have kinds := length_eq_visitsOfKind (visits plan events)
  obtain ⟨run, -⟩ := schedule_run plan events
  obtain ⟨allocated, -⟩ := tallied_after plan events
  have kept := (History.Sound.reached plan events).records
  -- What is visited and what is open has been queued or put back, each target as often.
  have targets : (batchesIn (History.after plan events).log).flatten.length +
      (History.after plan events).state.metrics.deepLinks + (History.after plan events).state.metrics.requeues =
        (History.after plan events).state.metrics.totalRequests +
          (History.after plan events).state.schedule.outstanding.length := by
    have conserved := run.conserves.length_eq
    simp only [enqueued, seeded, List.length_append, List.length_map] at conserved
    rw [tells.deepLinks, tells.requeues, tells.total]
    exact conserved.symm
  obtain ⟨total, failed, successful, failures, records, wrongPages, invalidPages, deepLinks, requeues, retries⟩ :=
    tells
  exact {
    requests := ⟨total, by omega⟩
    failures := failures.trans failed.symm
    retries := by omega
    pages := by omega
    reported := ⟨counts.running.trans records.symm,
      fun report ended => (counts.ended report ended).trans records.symm⟩
    buffered := ⟨extracted.trans records.symm, kept⟩
    seeded := allocated
    targets := targets
    between := fun none_open => by
      rw [targets, Schedule.outstanding, State.schedule, none_open, List.nil_append] }

/-- In the sample of a repeated address, three links and one detail page make four requests. One of them fails and is
given up, and of the pages one is a listing and two are records. -/
theorem counters_add_up_repeatedEvents :
    Reconciled (History.after listingPlan repeatedEvents) (visits listingPlan repeatedEvents) ∧
      let metrics := (History.after listingPlan repeatedEvents).state.metrics
      (metrics.deepLinks, metrics.totalRequests, metrics.failedRequests, metrics.records) = (1, 4, 1, 2) ∧
        (metrics.requeues, metrics.giveUps) = (0, 1) :=
  ⟨counters_add_up listingPlan repeatedEvents, by decide +kernel⟩

end Harvest.Crawl

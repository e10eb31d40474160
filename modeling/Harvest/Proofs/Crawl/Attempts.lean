import Harvest.Proofs.Crawl.Limits

/-! What a crawl counts, and which records it extracts, is told by its attempts alone. The counters do not
depend on their order. -/

namespace Harvest.Metrics

/-- Two failures may be counted in either order. -/
theorem addFailure_comm (first second : Nat) (failures : List (Nat × Nat)) :
    addFailure first (addFailure second failures) = addFailure second (addFailure first failures) := by
  -- Each of them goes in front of the statuses above it, before or after the other one.
  induction failures with
  | nil => grind [addFailure]
  | cons failure rest ih => grind [addFailure]

/-- Two events may be counted in either order. -/
theorem count_comm (metrics : Metrics) (first second : Event) :
    (metrics.count first).count second = (metrics.count second).count first := by
  -- Different events move different counters, and the same counter goes up by the sum.
  cases first <;> cases second <;> grind [count, addFailure_comm]

/-- The counters do not depend on the order of the events. -/
theorem foldl_count_perm {events others : List Event} (same : events.Perm others) (metrics : Metrics) :
    events.foldl count metrics = others.foldl count metrics :=
  same.foldl_eq' (fun first _ second _ metrics => count_comm metrics first second) metrics

end Harvest.Metrics

namespace Harvest.Crawl

/-- A visit with the outcome that it comes from. -/
structure Attempt extends Visit where
  outcome : Outcome
  /-- Is the target put back? -/
  again : Bool
  deriving Repr, Inhabited

/-- The request that is counted for an outcome. -/
def Outcome.request : Outcome → Metrics.Event
  | disconnected => .request false 0 none 0
  | answered status _ body =>
    if 400 ≤ status then .request false 0 (some status) 0 else .request true 0 (some status) body.utf8ByteSize

/-- What is counted for a target that failed. -/
def Attempt.retried (attempt : Attempt) : Metrics.Event :=
  if attempt.again then .requeued else .gaveUp

/-- What is counted for an attempt: its request and what came of it. -/
def Attempt.counted (attempt : Attempt) : List Metrics.Event :=
  attempt.outcome.request :: match attempt.finding with
    | .failed => [attempt.retried]
    | .page .wrongPage => [.wrongPage, attempt.retried]
    | .page (.listing _) => [.deepLinks attempt.details.length]
    | .page (.record _) => [.record]
    | .page .invalid => [.invalidPage]

/-- What an outcome amounts to at an address for which a listing gave a value. -/
def Outcome.find (plan : Plan) (url value : String) : Outcome → Finding
  | disconnected => .failed
  | answered status _ body =>
    if 400 ≤ status then .failed else .page (Content.ofPage plan.pattern plan.listing url body value)

/-- What a crawl finds is decided by the outcome and the value in its queue. -/
theorem State.find_eq (plan : Plan) (state : State) (target : Target) (outcome : Outcome) :
    state.find plan target outcome = outcome.find plan target.url (state.queue.parentValue target.url) := by
  cases outcome <;> rfl

/-- The attempt that comes from an outcome. -/
def State.attempt (plan : Plan) (state : State) (target : Target) (outcome : Outcome) : Attempt :=
  let visit : Visit := ⟨target, state.find plan target outcome⟩
  { visit with outcome, again := state.queue.putsBack visit }

/-- The attempt that an event makes, if it answers a target that is open and the crawl goes on. -/
def State.attempt? (plan : Plan) (state : State) : Event → Option Attempt
  | .fetched index outcome moment =>
    match state.phase with
    | .fetching unanswered =>
      match unanswered[index]? with
      | some target =>
        (state.handle plan target outcome moment).map fun _ => state.attempt plan target outcome
      | none => none
    | _ => none
  | _ => none

/-- An attempt is a visit. -/
theorem State.visit?_eq (plan : Plan) (state : State) (event : Event) :
    state.visit? plan event = (state.attempt? plan event).map Attempt.toVisit := by
  -- Both ask for the target that the outcome is for, in the same phase.
  cases event with
  | fetched index outcome moment =>
    simp only [visit?, attempt?]
    cases state.phase with
    | fetching unanswered =>
      cases stands : unanswered[index]? with
      | none => simp only [stands, Option.map_none]
      | some target =>
        simp only [stands, Option.map_map]
        rfl
    | _ => rfl
  | _ => rfl

/-- The attempts of a crawl, in order. -/
def attempts (plan : Plan) (events : List Event) : List Attempt :=
  (turns plan events).filterMap fun (state, event) => state.attempt? plan event

/-- One event more is one attempt more at most. -/
theorem attempts_append_singleton (plan : Plan) (events : List Event) (event : Event) :
    attempts plan (events ++ [event]) =
      attempts plan events ++ ((History.after plan events).state.attempt? plan event).toList := by
  -- The last event is looked at by itself.
  rw [attempts, turns_append_singleton, List.filterMap_append]
  cases tried : (History.after plan events).state.attempt? plan event <;> simp [attempts, tried]

/-- The visits of attempts. -/
def visitsOf (attempts : List Attempt) : List Visit :=
  attempts.map Attempt.toVisit

/-- The visits of more attempts are those of the first ones and those of the others. -/
@[simp]
theorem visitsOf_append (attempts others : List Attempt) :
    visitsOf (attempts ++ others) = visitsOf attempts ++ visitsOf others :=
  List.map_append

/-- The visits of a crawl are its attempts. -/
theorem visits_eq (plan : Plan) (events : List Event) :
    visits plan events = (attempts plan events).map Attempt.toVisit := by
  simp only [visits, attempts, List.map_filterMap, State.visit?_eq]

/-- As many detail pages are counted as are added to the queue. -/
theorem State.discoverAll_count (depth : Nat) (pages : List DetailPage) (queue : Queue) :
    (discoverAll depth pages queue).1 = if depth < maxDepth then pages.length else 0 := by
  -- On a page that is deep enough none of them is.
  induction pages generalizing queue with
  | nil => simp [discoverAll]
  | cons page rest ih =>
    simp only [discoverAll, ih, Queue.discover]
    by_cases shallow : depth < maxDepth
    · simp [shallow, Nat.not_lt.mpr (Nat.succ_le_of_lt shallow)]
    · simp [shallow, Nat.lt_succ_of_le (Nat.not_lt.mp shallow)]

/-- A failure puts its target back if it is queued again. -/
theorem Queue.putsBack_of_fails (queue : Queue) {visit : Visit} (fails : visit.finding.fails = true) :
    queue.putsBack visit = (queue.retried visit.target).1 := by
  rw [retried_again, putsBack, fails, Bool.true_and]

/-- The outcome of a fetch counts what its attempt says. -/
theorem State.handle_metrics {plan : Plan} {state after : State} {target : Target} {outcome : Outcome}
    {moment : Moment} (handled : state.handle plan target outcome moment = some after) :
    after.metrics = (state.attempt plan target outcome).counted.foldl Metrics.count state.metrics := by
  -- A failure is counted as put back if it is queued again.
  have lost : state.queue.putsBack ⟨target, .failed⟩ = (state.queue.retried target).1 :=
    state.queue.putsBack_of_fails rfl
  have wrong : state.queue.putsBack ⟨target, .page .wrongPage⟩ = (state.queue.retried target).1 :=
    state.queue.putsBack_of_fails rfl
  cases outcome with
  | disconnected =>
    obtain ⟨-, rfl⟩ := retry_eq_some_iff.mp handled
    simp only [attempt, find, Attempt.counted, Attempt.retried, lost]
    rfl
  | answered status cookies body =>
    by_cases failed : 400 ≤ status
    · simp only [handle, if_pos failed] at handled
      obtain ⟨-, rfl⟩ := retry_eq_some_iff.mp handled
      simp only [attempt, find, if_pos failed, Attempt.counted, Attempt.retried, lost, Outcome.request]
      rfl
    · simp only [handle, if_neg failed] at handled
      simp only [if_neg failed, attempt, find, Attempt.counted, Outcome.request]
      cases content : Content.ofPage plan.pattern plan.listing target.url body
        (state.queue.parentValue target.url) <;> rw [content] at handled
      case listing pages =>
        obtain rfl := Option.some.inj handled
        simp only [count, discoverAll_count, Visit.details, Finding.listed, List.foldl_cons, List.foldl_nil]
        split <;> simp
      case wrongPage =>
        obtain ⟨-, rfl⟩ := retry_eq_some_iff.mp handled
        simp only [Attempt.retried, wrong]
        rfl
      all_goals
        obtain rfl := Option.some.inj handled
        rfl

/-- The last flush counts nothing. -/
theorem State.store_metrics (stopped : Bool) (next : Option Writing) (state : State) :
    (state.store stopped next).metrics = state.metrics := by
  -- It waits for a write, or it ends with the report.
  cases next with
  | some writing => rfl
  | none =>
    simp only [store, report?]
    split <;> rfl

/-- An event counts what its attempt says, and nothing without one. -/
theorem State.step_metrics (plan : Plan) (state : State) (event : Event) : (state.step plan event).metrics =
    ((state.attempt? plan event).toList.flatMap Attempt.counted).foldl Metrics.count state.metrics := by
  obtain ⟨phase, queue, buffer, background, identity, metrics, report⟩ := state
  cases event with
  | fetched index outcome moment =>
    cases phase with
    | fetching unanswered =>
      simp only [step, attempt?]
      -- Only a target that is open can be answered.
      cases unanswered[index]? with
      | none => rfl
      | some target =>
        dsimp only
        -- A crawl that breaks off counts nothing.
        cases handled : handle plan target outcome moment _ with
        | none => rfl
        | some after =>
          rw [Option.map_some, Option.toList_some, List.flatMap_singleton, ← handle_metrics handled]
          -- How the crawl goes on does not count either.
          simp only [afterOutcome]
          split
          · rfl
          · split <;> rfl
    | _ => rfl
  -- Nothing else is an attempt.
  | leased reply => cases phase <;> cases reply <;> rfl
  | clock late => cases phase <;> cases late <;> rfl
  | client made => cases phase <;> cases made <;> rfl
  | flushDue => cases phase <;> cases background <;> rfl
  | flushed reply => cases background <;> rfl
  | rested =>
    cases phase with
    | closing stopped =>
      cases background with
      | none => exact store_metrics ..
      | some writing => rfl
    | _ => rfl
  | stored reply =>
    cases phase with
    | storing stopped writing =>
      simp only [step]
      rcases buffer.afterWrite writing reply with ⟨left, cause | next⟩
      · rfl
      · exact store_metrics ..
    | _ => rfl
  | reported reply => cases phase <;> rfl
  | refreshed pool jar => rfl

/-- The counters of a crawl are told by its attempts. -/
theorem metrics_after (plan : Plan) (events : List Event) : (History.after plan events).state.metrics =
    ((attempts plan events).flatMap Attempt.counted).foldl Metrics.count {} := by
  -- Each event counts its own attempt.
  induction events using List.reverseRecOn with
  | nil => rfl
  | append_singleton events event ih =>
    rw [History.after_append_singleton, attempts_append_singleton, List.flatMap_append, List.foldl_append, ← ih]
    exact State.step_metrics ..

/-- The record that a page gives, after its address and the circumstances. -/
def Note.record? : Note → Option (Moment × String × Fields)
  | answered url status (.record fields) moment => if status < 400 then some (moment, url, fields) else none
  | _ => none

/-- The records extracted so far, each with the address that it comes from. -/
def recordsIn (log : List Note) : List (String × Fields) :=
  (log.filterMap Note.record?).map (·.2)

/-- The documents that are extracted are those of the records, with the time and an identifier. -/
theorem extractedIn_eq (log : List Note) : extractedIn log =
    (log.filterMap Note.record?).map fun (moment, url, fields) =>
      recordDocument moment.freshId url moment.now fields := by
  -- Note by note, as only a page with a record and without a failure gives one.
  have one (note : Note) : note.extracted = (note.record?.map fun (moment, url, fields) =>
      recordDocument moment.freshId url moment.now fields).toList := by
    cases note with
    | answered url status content moment =>
      cases content with
      | record fields => by_cases fine : status < 400 <;> simp [Note.extracted, Note.record?, fine]
      | _ => rfl
    | _ => rfl
  induction log with
  | nil => rfl
  | cons note rest ih =>
    rw [extractedIn, List.flatMap_cons, ← extractedIn, ih, one]
    cases found : note.record? <;> simp [found]

/-- The end of the last flush brings no records. -/
theorem recordsIn_lastFlushNotes (result : Except StoreError (Option Writing)) :
    recordsIn (lastFlushNotes result) = [] := by
  rcases result with cause | _ | writing <;> rfl

/-- Nothing is extracted exactly if there are no records. -/
theorem recordsIn_eq_nil_iff {log : List Note} : recordsIn log = [] ↔ extractedIn log = [] := by
  rw [recordsIn, extractedIn_eq, List.map_eq_nil_iff, List.map_eq_nil_iff]

/-- An event brings the record of its visit. -/
theorem State.recordsIn_notes (plan : Plan) (state : State) (event : Event) :
    recordsIn (state.notes plan event) = (state.visit? plan event).toList.filterMap Visit.record? := by
  obtain ⟨phase, queue, buffer, background, identity, metrics, report⟩ := state
  cases event with
  | fetched index outcome moment =>
    cases phase with
    | fetching unanswered =>
      simp only [notes, visit?]
      cases unanswered[index]? with
      | none => rfl
      | some target =>
        dsimp only
        cases handled : handle plan target outcome moment _ with
        | none => exact recordsIn_eq_nil_iff.mpr (extractedIn_of_fails (handle_eq_none_iff.mp handled).1)
        | some after =>
          cases outcome with
          | disconnected => rfl
          | answered status cookies body =>
            -- A page that comes with a failure gives none.
            simp only [answerNotes, find, Option.map_some, Option.toList_some]
            by_cases failed : 400 ≤ status
            · rw [if_pos failed]
              cases Content.ofPage plan.pattern plan.listing target.url body (queue.parentValue target.url) <;>
                simp [recordsIn, List.filterMap_cons, Note.record?, Visit.record?, Nat.not_lt.mpr failed]
            · rw [if_neg failed]
              cases Content.ofPage plan.pattern plan.listing target.url body (queue.parentValue target.url) <;>
                simp [recordsIn, List.filterMap_cons, Note.record?, Visit.record?, Nat.lt_of_not_le failed]
    | _ => rfl
  -- No other note has a record.
  | leased reply => cases reply <;> cases phase <;> rfl
  | flushed reply => cases background <;> rfl
  | rested =>
    cases phase with
    | closing stopped =>
      cases background with
      | none => exact recordsIn_lastFlushNotes _
      | some writing => rfl
    | _ => rfl
  | stored reply =>
    cases phase with
    | storing stopped writing => exact recordsIn_lastFlushNotes _
    | _ => rfl
  | _ => rfl

/-- The records of a crawl are those that its visits find. -/
theorem recordsIn_after (plan : Plan) (events : List Event) :
    recordsIn (History.after plan events).log = (visits plan events).filterMap Visit.record? := by
  -- The last event adds the record of its visit, and what is completed is no record.
  have untold (before after : Phase) : recordsIn (completingNotes before after) = [] := by
    unfold completingNotes
    split <;> rfl
  induction events using List.reverseRecOn with
  | nil => rfl
  | append_singleton events event ih =>
    rw [visits_append_singleton, List.filterMap_append, ← ih, ← State.recordsIn_notes,
      History.after_append_singleton]
    simp only [recordsIn] at untold
    simp [History.step, recordsIn, untold]

end Harvest.Crawl

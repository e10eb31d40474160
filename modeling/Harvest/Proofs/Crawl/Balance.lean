import Harvest.Proofs.Crawl.Accounts
import Harvest.Proofs.Crawl.Reporting

/-! The report of a crawl balances: of the links leased, each is reported as completed or counted as given
up. -/

namespace Harvest.Crawl

variable {plan : Plan}

/-- The links that the coordinator is told as completed. -/
def Note.told : Note → List String
  | completing ids => ids
  | _ => []

/-- The links that a crawl has reported as completed. -/
def completedIn (log : List Note) : List String :=
  log.flatMap Note.told

/-- Does the coordinator refuse the report of completed links? -/
def State.refusedBy (state : State) : Event → Bool
  | .reported (.error _) => match state.phase with
    | .reporting .. => true
    | _ => false
  | _ => false

/-- Is the report of completed links refused? -/
def refused (plan : Plan) (events : List Event) : Bool :=
  occurs plan State.refusedBy events

/-- What the report of a crawl counts, by the log and by how far the crawl has come. -/
def State.Tallied (state : State) (log : List Note) (refused : Prop) : Prop :=
  state.report.allocated = (batchesIn log).flatten.length ∧ match state.phase with
    | .reporting _ ids => completedIn log = state.queue.completed ∧ ids = state.queue.completed
    | .ended (.ok report) => completedIn log = state.queue.completed ∧
      report.allocated = (batchesIn log).flatten.length ∧ report.givenUp = state.queue.givenUp.length ∧
      (report.completed = state.queue.completed.length ∨ refused)
    | .ended (.error _) => True
    | _ => completedIn log = [] ∧ state.report.completed = 0

/-- What neither the phase nor the queue nor the report shows does not count. -/
theorem State.Tallied.kept {before after : State} {log log' : List Note} {refused refused' : Prop}
    (tallied : before.Tallied log refused) (phase : after.phase = before.phase)
    (queue : after.queue = before.queue) (report : after.report = before.report)
    (leased : batchesIn log' = batchesIn log) (told : completedIn log' = completedIn log)
    (more : refused → refused') : after.Tallied log' refused' := by
  unfold State.Tallied at tallied ⊢
  rw [phase, queue, report, leased, told]
  refine ⟨tallied.1, ?_⟩
  have rest := tallied.2
  -- Only a report that is over says whether it was refused.
  split at rest
  · exact rest
  · exact ⟨rest.1, rest.2.1, rest.2.2.1, rest.2.2.2.imp_right more⟩
  · trivial
  · simp_all

/-- The reports of a longer log are those before and the one that comes with the event. -/
theorem completedIn_step (history : History) (event : Event) :
    completedIn (history.step plan event).log = completedIn history.log ++
      completedIn (completingNotes history.state.phase (history.step plan event).state.phase) := by
  have untold : completedIn (history.state.notes plan event) = [] := by
    refine List.flatMap_eq_nil_iff.mpr fun note among => ?_
    cases note with
    | completing ids => exact absurd among (Stage.notes_untold event ids)
    | _ => rfl
  -- No other note tells the coordinator anything.
  simp only [completedIn] at untold
  simp [History.step, completedIn, untold]

/-- A phase in which no report is under way, and none is over. -/
def Phase.isEarly : Phase → Bool
  | .reporting .. | .ended _ => false
  | _ => true

/-- In an early phase the coordinator is not waited for. -/
theorem Phase.ne_reporting {phase : Phase} (early : phase.isEarly = true) (stopped : Bool) (ids : List String) :
    phase ≠ .reporting stopped ids := by
  -- Waiting for the coordinator is a late phase.
  intro same
  rw [same] at early
  cases early

/-- Before the report of completed links, none is counted. -/
theorem State.tallied_of_early {state : State} {log : List Note} {refused : Prop}
    (early : state.phase.isEarly = true) : state.Tallied log refused ↔
      state.report.allocated = (batchesIn log).flatten.length ∧ completedIn log = [] ∧
        state.report.completed = 0 := by
  unfold State.Tallied
  cases same : state.phase <;> simp_all [Phase.isEarly]

/-- While flushes in the background may begin, no report is under way. -/
theorem State.isEarly_of_hasFlusher {state : State} (flusher : state.hasFlusher = true) :
    state.phase.isEarly = true := by
  unfold State.hasFlusher at flusher
  cases same : state.phase <;> simp_all [Phase.isEarly]

/-- Going on with the last flush tells the completed links, unless another write comes or there are none. -/
theorem State.store_tallied {state : State} (stopped : Bool) (next : Option Writing) {log log' : List Note}
    {refused : Prop} (leased : batchesIn log' = batchesIn log)
    (told : completedIn log' =
      completedIn log ++ completedIn (completingNotes state.phase (state.store stopped next).phase))
    (early : state.phase.isEarly = true) (tallied : state.Tallied log refused) :
    (state.store stopped next).Tallied log' refused := by
  rw [State.tallied_of_early early] at tallied
  obtain ⟨allocated, untold, uncounted⟩ := tallied
  rw [untold, List.nil_append] at told
  -- There is another write to wait for, or the report, or the crawl is over without one.
  cases next with
  | some writing =>
    refine (State.tallied_of_early rfl).mpr ⟨leased ▸ allocated, ?_, uncounted⟩
    rw [told, completingNotes_eq_nil (by simp [State.store])]
    rfl
  | none =>
    by_cases nothing : state.queue.completed.isEmpty = true
    · have none_left : state.queue.completed = [] := List.isEmpty_iff.mp nothing
      simp only [State.store, State.report?, if_pos nothing] at told ⊢
      cases stopped with
      | true => exact ⟨leased ▸ allocated, trivial⟩
      | false =>
        refine ⟨leased ▸ allocated, ?_, leased ▸ allocated, rfl, .inl ?_⟩
        · rw [told, completingNotes_eq_nil (by simp [State.finish])]
          exact none_left.symm
        · simpa [State.finish, none_left] using uncounted
    · simp only [State.store, State.report?, if_neg nothing] at told ⊢
      refine ⟨leased ▸ allocated, ?_, rfl⟩
      rw [told, completingNotes_reporting (Phase.ne_reporting early)]
      simp [completedIn, Note.told]

/-- Every move counts what it does. -/
theorem Move.tallied {before after : State} {event : Event} (move : Move plan before event after)
    {log log' : List Note} {refused : Prop}
    (leased : batchesIn log' = batchesIn log ++ batchesIn (before.notes plan event))
    (told : completedIn log' = completedIn log ++ completedIn (completingNotes before.phase after.phase))
    (tallied : before.Tallied log refused) :
    after.Tallied log' (refused ∨ before.refusedBy event = true) := by
  -- Between two early phases only leases are counted.
  have goesOn (first : before.phase.isEarly = true) (second : after.phase.isEarly = true)
      (allocated : after.report.allocated =
        before.report.allocated + (batchesIn (before.notes plan event)).flatten.length)
      (completed : after.report.completed = before.report.completed) :
      after.Tallied log' (refused ∨ before.refusedBy event = true) := by
    obtain ⟨counted, untold, uncounted⟩ := (State.tallied_of_early first).mp tallied
    refine (State.tallied_of_early second).mpr ⟨?_, ?_, completed.trans uncounted⟩
    · rw [allocated, counted, leased, List.flatten_append, List.length_append]
    · rw [told, untold, completingNotes_eq_nil (Phase.ne_reporting second)]
      rfl
  cases move with
  -- Where the phase stays, nothing is told.
  | rests phase queue report unleased unvisited =>
    rw [unleased, List.append_nil] at leased
    have told' : completedIn log' = completedIn log := by
      rw [told, phase]
      cases before.phase <;> simp [completingNotes, completedIn]
    exact tallied.kept phase queue report leased told' .inl
  | leases waits =>
    refine goesOn ?_ (State.isEarly_of_hasFlusher (Stage.proceed_hasFlusher _)) ?_ ?_
    · rcases waits with same | same <;> simp [same, Phase.isEarly]
    · rcases waits with same | same <;>
        simp [State.proceed, State.seed, State.notes, same, batchesIn, Note.batch?]
    · rfl
  -- A crawl that fails is over, and only its leases are counted.
  | fails waits =>
    refine ⟨?_, trivial⟩
    rw [leased]
    simpa [State.notes, batchesIn] using tallied.1
  | runsDry waits =>
    refine goesOn ?_ (State.isEarly_of_hasFlusher (Stage.proceed_hasFlusher _)) rfl rfl
    simp [waits, Phase.isEarly]
  | @checks late waits =>
    refine goesOn ?_ ?_ rfl rfl
    · simp [waits, Phase.isEarly]
    · cases late <;> rfl
  | @rechecks late waits =>
    refine goesOn ?_ ?_ rfl rfl
    · simp [waits, Phase.isEarly]
    · cases late <;> rfl
  | begins waits => exact goesOn (by simp [waits, Phase.isEarly]) rfl rfl rfl
  | stops waits => exact goesOn (by simp [waits, Phase.isEarly]) rfl rfl rfl
  -- The report is no matter of visits.
  | @visits index outcome moment unanswered target after waits stands handled unleased =>
    have counted := (handle_handled handled).report
    have report : (after.afterOutcome (unanswered.eraseIdx index)).report = after.report := by
      unfold State.afterOutcome
      split
      · rfl
      · split <;> rfl
    refine goesOn ?_ (State.isEarly_of_hasFlusher (Stage.afterOutcome_hasFlusher ..)) ?_ ?_
    · simp [waits, Phase.isEarly]
    · rw [report, counted, unleased]
      rfl
    · rw [report, counted]
  | breaks waits stands stuck unleased =>
    refine goesOn (by simp [waits, Phase.isEarly]) rfl ?_ rfl
    rw [unleased]
    rfl
  | @stores event stopped next left waits unleased unvisited =>
    have first : before.phase.isEarly = true := by
      rcases waits with same | ⟨writing, same⟩ <;> simp [same, Phase.isEarly]
    rw [unleased, List.append_nil] at leased
    -- What the buffer holds does not count.
    exact State.store_tallied stopped next leased told first (tallied.kept rfl rfl rfl rfl rfl .inl)
  | loses waits unleased =>
    refine ⟨?_, trivial⟩
    rw [leased, unleased, List.append_nil]
    exact tallied.1
  -- Only now the completed links come to the report.
  | @reports reply stopped ids waits =>
    unfold State.Tallied at tallied
    rw [waits] at tallied
    obtain ⟨allocated, known, same⟩ := tallied
    have leased' : batchesIn log' = batchesIn log := by
      simpa [State.notes, batchesIn] using leased
    have told' : completedIn log' = before.queue.completed := by
      rw [told, waits, known]
      simp [completingNotes, completedIn]
    rw [← leased'] at allocated
    cases stopped with
    | true => exact ⟨allocated, trivial⟩
    | false =>
      -- The links told are counted as completed, unless they are refused.
      refine ⟨allocated, told', allocated, rfl, ?_⟩
      cases reply with
      | ok done => exact .inl (congrArg List.length same)
      | error cause => exact .inr (.inr (by simp [State.refusedBy, waits]))

/-- After every series of events the report of a crawl counts what was leased, told and given up. -/
theorem tallied_after (plan : Plan) (events : List Event) :
    (History.after plan events).state.Tallied (History.after plan events).log
      (refused plan events = true) := by
  -- Each event is a move.
  induction events using List.reverseRecOn with
  | nil => exact ⟨rfl, rfl, rfl⟩
  | append_singleton events event ih =>
    rw [History.after_append_singleton, refused, occurs_append_singleton, Bool.or_eq_true]
    exact (step_move plan (History.after plan events).state event).tallied (batchesIn_step _ _)
      (completedIn_step _ _) ih

/-- The report of a crawl that has come to a good end. -/
def Phase.report? : Phase → Option Report
  | .ended (.ok report) => some report
  | _ => none

/-- A crawl with a report has come to a good end. -/
theorem Phase.eq_of_report? {phase : Phase} {report : Report} (found : phase.report? = some report) :
    phase = .ended (.ok report) := by
  -- No other phase has a report.
  unfold Phase.report? at found
  split at found
  · rw [Option.some_inj.mp found]
  · cases found

/-- How the links of a crawl are accounted for when it is over. -/
structure Accounted (history : History) (report : Report) : Prop where
  /-- Each leased link is reported as completed or given up, and no other one is. -/
  shared : ∀ id, id ∈ (batchesIn history.log).flatten.map (·.id) ↔
    id ∈ completedIn history.log ∨ id ∈ history.state.queue.givenUp
  /-- None is both. -/
  apart : ∀ id ∈ completedIn history.log, id ∉ history.state.queue.givenUp
  /-- The report counts them. -/
  counted : report.allocated = (batchesIn history.log).flatten.length ∧
    report.completed = (completedIn history.log).length ∧ report.givenUp = history.state.queue.givenUp.length
  balance : report.allocated = report.completed + report.givenUp

/-- When a crawl ends because nothing is left to fetch, every leased link is accounted for. -/
theorem leased_accounted (plan : Plan) (events : List Event) {report : Report}
    (ended : (History.after plan events).state.phase = .ended (.ok report))
    (exhausted : cutShort plan events = false) (taken : refused plan events = false)
    (ids : ((batchesIn (History.after plan events).log).flatten.map (·.id)).Nodup)
    (urls : ∀ batch ∈ batchesIn (History.after plan events).log, (batch.map (·.url)).Nodup) :
    Accounted (History.after plan events) report := by
  obtain ⟨run, left⟩ := schedule_run plan events
  have tallied := tallied_after plan events
  generalize History.after plan events = history at ended ids urls run left tallied ⊢
  unfold State.Tallied at tallied
  unfold State.Exhausted at left
  rw [ended] at tallied left
  obtain ⟨-, told, allocated, givenUp, completed⟩ := tallied
  rw [← told] at completed
  -- Nothing is left to visit.
  have dry : history.state.schedule.outstanding = [] := by
    simp only [Schedule.outstanding, State.schedule, State.unanswered, ended, List.nil_append]
    exact left.resolve_right (by simp [exhausted])
  have perm : (completedIn history.log ++ history.state.queue.givenUp).Perm
      ((batchesIn history.log).flatten.map (·.id)) := told ▸ run.perm_of_dry dry urls ids
  have completed : report.completed = (completedIn history.log).length :=
    completed.resolve_right (by simp [taken])
  exact {
    shared := fun id => by rw [← perm.mem_iff, List.mem_append]
    apart := fun id among => by
      rw [told] at among
      exact (Queue.mem_completed.mp among).2
    counted := ⟨allocated, completed, givenUp⟩
    balance := by
      have length := perm.length_eq
      rw [List.length_append, List.length_map] at length
      rw [allocated, completed, givenUp, length] }

/-- A plan for listings and for pages with one paragraph, where no address is tried again. -/
def listingPlan : Plan :=
  let rule : Rule := { samplePlan.rule with fragments := ["li", "b", "a"] }
  { samplePlan with
    rule, listing := (Listing.parse? rule.fragments).toOption.getD none, settings := { giveUpAfter := 0 } }

/-- Two links are leased, and the page of the first lists the address of the second. That address gives a
record at first and fails as a detail page. Then the first address is leased again under another name. -/
def repeatedEvents : List Event :=
  let link (id url : String) : Link := { id, url, ruleId := "r", updated := 0 }
  let page (body : String) : Event := .fetched 0 (.answered 200 [] body) ⟨0, 0, "f"⟩
  [.leased (.ok [link "1" "http://s/a", link "2" "http://s/b"]), .clock false, .client true,
    page "<li><a href=/b>x</a></li>", page "<p>x</p>",
    .clock false, .client true, .fetched 0 .disconnected ⟨0, 0, "f"⟩, .clock false,
    .leased (.ok [link "3" "http://s/a"]), .clock false, .client true, page "<p>x</p>", .clock false,
    .leased (.ok []), .rested, .stored (.ok ()), .reported (.ok ())]

/-- In the sample the second link is given up and the other two are completed. -/
theorem leased_accounted_repeated :
    Accounted (History.after listingPlan repeatedEvents)
      { ruleId := "r", allocated := 3, completed := 2, givenUp := 1, records := 2 } :=
  leased_accounted listingPlan repeatedEvents (Phase.eq_of_report? (by decide +kernel)) (by decide +kernel)
    (by decide +kernel) (by decide +kernel) (by decide +kernel)

end Harvest.Crawl

import Harvest.Proofs.Crawl.Moves

/-! The targets of a crawl are seeded when nothing else is left to fetch, drained at the start of a cycle, and
visited one by one. What the queue comes to is decided by the leases and the visits alone. -/

namespace Harvest.Crawl

variable {plan : Plan}

/-- The targets of the cycle that are still open, or were when the crawl broke off. -/
def State.unanswered (state : State) : List Target :=
  match state.phase with
  | .fetching unanswered | .broken unanswered => unanswered
  | _ => []

/-- The open targets of a cycle together with the queue. -/
structure Schedule where
  unanswered : List Target
  queue : Queue

/-- The schedule of a crawl. -/
def State.schedule (state : State) : Schedule :=
  ⟨state.unanswered, state.queue⟩

/-- The targets that are yet to be visited. -/
def Schedule.outstanding (schedule : Schedule) : List Target :=
  schedule.unanswered ++ schedule.queue.pending

/-- A target that is to be visited still is after a visit, unless the visit is its own and does not put it
back. -/
theorem Schedule.outstanding_visit {front back : List Target} {visit : Visit} {queue : Queue}
    {target : Target}
    (stands : target ∈ outstanding ⟨front ++ visit.target :: back, queue⟩) :
    target ∈ outstanding ⟨front ++ back, queue.take visit⟩ ∨
      visit.target = target ∧ queue.putsBack visit = false := by
  simp only [outstanding, (queue.takes visit).pending, List.mem_append, List.mem_cons] at stands ⊢
  -- The visit takes out its own target alone.
  rcases stands with (front | same | back) | pending
  · exact .inl (.inl (.inl front))
  · cases again : queue.putsBack visit with
    | true => exact .inl (.inr (.inr (by simp [same])))
    | false => exact .inr ⟨same.symm, rfl⟩
  · exact .inl (.inl (.inr back))
  · exact .inl (.inr (.inl (.inl pending)))

/-- The schedules that leases and visits lead to. -/
inductive Schedule.Run (giveUpAfter : Nat) : List (List Link) → List Visit → Schedule → Prop
  | start : Run giveUpAfter [] [] ⟨[], { giveUpAfter }⟩
  | seed {batches : List (List Link)} {visits : List Visit} {queue : Queue}
      (run : Run giveUpAfter batches visits ⟨[], queue⟩) (dry : queue.pending = []) (links : List Link) :
      Run giveUpAfter (batches ++ [links]) visits ⟨[], queue.seed links⟩
  | drain {batches : List (List Link)} {visits : List Visit} {queue : Queue}
      (run : Run giveUpAfter batches visits ⟨[], queue⟩) :
      Run giveUpAfter batches visits ⟨queue.pending, queue.drain.2⟩
  | visit {batches : List (List Link)} {visits : List Visit} {front back : List Target} {visit : Visit}
      {queue : Queue} (run : Run giveUpAfter batches visits ⟨front ++ visit.target :: back, queue⟩) :
      Run giveUpAfter batches (visits ++ [visit]) ⟨front ++ back, queue.take visit⟩

/-- A visit of any open target, told by its place among them, is a step of the schedule. -/
theorem Schedule.Run.visit_at {giveUpAfter : Nat} {batches : List (List Link)} {visits : List Visit}
    {unanswered : List Target} {queue : Queue} {visit : Visit} {index : Nat}
    (run : Run giveUpAfter batches visits ⟨unanswered, queue⟩) (stands : unanswered[index]? = some visit.target) :
    Run giveUpAfter batches (visits ++ [visit]) ⟨unanswered.eraseIdx index, queue.take visit⟩ := by
  -- The target is taken out from between those in front and those behind.
  obtain ⟨inside, same⟩ := List.getElem?_eq_some_iff.mp stands
  have among : unanswered = unanswered.take index ++ visit.target :: unanswered.drop (index + 1) := by
    rw [← same, ← List.drop_eq_getElem_cons inside, List.take_append_drop]
  rw [among] at run
  rw [List.eraseIdx_eq_take_drop_succ]
  exact run.visit

/-- Does an event stop a crawl with targets left? The time is up before a cycle, or no client can be made. -/
def State.cutBy (state : State) : Event → Bool
  | .clock late => late && match state.phase with
    | .checking => true
    | _ => false
  | .client made => !made && match state.phase with
    | .connecting => true
    | _ => false
  | _ => false

/-- Is a crawl stopped with targets left? -/
def cutShort (plan : Plan) (events : List Event) : Bool :=
  occurs plan State.cutBy events

/-- Where a crawl has no targets left: before it waits for links, and from its end on unless it was cut
short. -/
def State.Exhausted (state : State) (cut : Prop) : Prop :=
  match state.phase with
  | .checking | .connecting | .fetching _ | .broken _ => True
  | .leasing | .rechecking | .leasingMore => state.queue.pending = []
  | .closing _ | .storing .. | .reporting .. | .ended _ => state.queue.pending = [] ∨ cut

/-- What neither the phase nor the queue shows is not what is left to fetch. -/
theorem State.Exhausted.kept {before after : State} {cut cut' : Prop} (exhausted : before.Exhausted cut)
    (phase : after.phase = before.phase) (queue : after.queue = before.queue) (more : cut → cut') :
    after.Exhausted cut' := by
  unfold State.Exhausted at exhausted ⊢
  rw [phase, queue]
  -- Only at the end it matters whether the crawl was cut short.
  cases same : before.phase <;> rw [same] at exhausted
  case closing | storing | reporting | ended => exact exhausted.imp_right more
  all_goals exact exhausted

/-- A crawl that goes on with the next cycle, or to its end, has no open targets, and it comes to its end only
if nothing is left to fetch. -/
theorem State.proceed_schedule (state : State) (cut : Prop) :
    state.proceed.schedule = ⟨[], state.queue⟩ ∧ state.proceed.Exhausted cut := by
  -- There is another cycle as long as there are targets.
  by_cases dry : state.queue.pending.isEmpty = true
  · have empty : state.queue.pending = [] := List.isEmpty_iff.mp dry
    simp [State.proceed, State.schedule, State.unanswered, State.Exhausted, empty]
  · simp [State.proceed, State.schedule, State.unanswered, State.Exhausted, dry]

/-- After an outcome the other targets are still open, and another lease is sought only if nothing is left to
fetch. -/
theorem State.afterOutcome_schedule (unanswered : List Target) (state : State) (cut : Prop) :
    (state.afterOutcome unanswered).schedule = ⟨unanswered, state.queue⟩ ∧
      (state.afterOutcome unanswered).Exhausted cut := by
  -- The cycle goes on, or it is over with or without targets for the next one.
  cases unanswered with
  | cons target rest => exact ⟨rfl, trivial⟩
  | nil =>
    by_cases dry : state.queue.pending.isEmpty = true
    · have empty : state.queue.pending = [] := List.isEmpty_iff.mp dry
      simp [State.afterOutcome, State.schedule, State.unanswered, State.Exhausted, empty]
    · simp [State.afterOutcome, State.schedule, State.unanswered, State.Exhausted, dry]

/-- The last flush leaves the targets as they are. -/
theorem State.store_schedule (stopped : Bool) (next : Option Writing) (state : State) {cut : Prop}
    (exhausted : state.queue.pending = [] ∨ cut) :
    (state.store stopped next).schedule = ⟨[], state.queue⟩ ∧
      (state.store stopped next).Exhausted cut := by
  -- There is another write to wait for, or the report, or the crawl is over.
  cases next with
  | some writing => exact ⟨rfl, exhausted⟩
  | none =>
    by_cases nothing : state.queue.completed.isEmpty = true
    · simp only [State.store, State.report?, if_pos nothing]
      exact ⟨rfl, exhausted⟩
    · simp only [State.store, State.report?, if_neg nothing]
      exact ⟨rfl, exhausted⟩

/-- A move is a step of the schedule, and what it leaves to fetch is not forgotten. -/
theorem Move.schedule {before after : State} {event : Event} (move : Move plan before event after)
    {giveUpAfter : Nat} {batches : List (List Link)} {visits : List Visit} {cut : Prop}
    (run : Schedule.Run giveUpAfter batches visits before.schedule) (exhausted : before.Exhausted cut) :
    Schedule.Run giveUpAfter (batches ++ batchesIn (before.notes plan event))
        (visits ++ (before.visit? plan event).toList) after.schedule ∧
      after.Exhausted (cut ∨ before.cutBy event = true) := by
  -- Most moves lead from one phase without open targets to another and leave the queue alone.
  have stays {queue : Queue} {noted : List (List Link)}
      (run : Schedule.Run giveUpAfter batches visits ⟨[], queue⟩) (unleased : noted = []) :
      Schedule.Run giveUpAfter (batches ++ noted) (visits ++ (none : Option Visit).toList) ⟨[], queue⟩ := by
    simpa [unleased] using run
  obtain ⟨phase, queue, buffer, background, identity, metrics, report⟩ := before
  cases move with
  | rests phase' queue' report' unleased unvisited =>
    have kept : after.schedule =
        State.schedule ⟨phase, queue, buffer, background, identity, metrics, report⟩ := by
      simp [State.schedule, State.unanswered, phase', queue']
    rw [unleased, unvisited, kept]
    exact ⟨by simpa using run, exhausted.kept phase' queue' .inl⟩
  | @leases links waits =>
    obtain ⟨arrived, going⟩ :=
      (State.seed ⟨phase, queue, buffer, background, identity, metrics, report⟩ links).proceed_schedule _
    refine ⟨?_, going⟩
    rw [arrived, show State.visit? .. = none from rfl, Option.toList_none, List.append_nil]
    -- Links are leased only when nothing else is left to fetch.
    rcases waits with same | same
    · obtain rfl := same
      exact .seed run exhausted links
    · obtain rfl := same
      exact .seed run exhausted links
  -- Without links to lease the crawl comes to its end, where nothing is left.
  | fails waits =>
    obtain rfl := waits
    exact ⟨stays run rfl, .inl exhausted⟩
  | runsDry waits =>
    obtain rfl := waits
    obtain ⟨arrived, going⟩ :=
      (State.mk .leasingMore queue buffer background identity metrics report).proceed_schedule _
    rw [arrived]
    exact ⟨stays run rfl, going⟩
  -- The clock may cut the crawl short before a cycle, but not after the last target.
  | @checks late waits =>
    obtain rfl := waits
    cases late with
    | true => exact ⟨stays run rfl, .inr (.inr rfl)⟩
    | false => exact ⟨stays run rfl, trivial⟩
  | @rechecks late waits =>
    obtain rfl := waits
    cases late with
    | true => exact ⟨stays run rfl, .inl exhausted⟩
    | false => exact ⟨stays run rfl, exhausted⟩
  -- The whole queue is drained, and all of it is open.
  | begins waits =>
    obtain rfl := waits
    refine ⟨?_, trivial⟩
    have drained : Schedule.Run giveUpAfter batches visits ⟨queue.pending, queue.drain.2⟩ := .drain run
    simpa [batchesIn, State.notes, State.visit?, State.schedule, State.unanswered] using drained
  | stops waits =>
    obtain rfl := waits
    exact ⟨stays run rfl, .inr (.inr rfl)⟩
  -- The visited target is open no more, and the queue takes what the visit brings.
  | @visits index outcome moment unanswered target after waits stands handled unleased =>
    obtain rfl := waits
    obtain ⟨arrived, going⟩ := State.afterOutcome_schedule (unanswered.eraseIdx index) after _
    rw [arrived, (handle_handled handled).queue, State.visit?_fetched rfl stands handled, unleased, List.append_nil]
    exact ⟨Schedule.Run.visit_at run stands, going⟩
  | breaks waits stands stuck unleased =>
    -- The targets that are open stay so.
    obtain rfl := waits
    rw [State.visit?_broken rfl stands stuck, unleased]
    have still : Schedule.Run giveUpAfter (batches ++ []) (visits ++ []) _ :=
      (List.append_nil batches).symm ▸ (List.append_nil visits).symm ▸ run
    exact ⟨still, trivial⟩
  | @stores event stopped next left waits unleased unvisited =>
    -- The end has come already, whether or not targets are left.
    obtain ⟨run, ending⟩ :
        Schedule.Run giveUpAfter batches visits ⟨[], queue⟩ ∧ (queue.pending = [] ∨ cut) := by
      rcases waits with same | ⟨writing, same⟩
      · obtain rfl := same
        exact ⟨run, exhausted⟩
      · obtain rfl := same
        exact ⟨run, exhausted⟩
    obtain ⟨arrived, still⟩ := State.store_schedule stopped next
      ⟨phase, queue, left, background, identity, metrics, report⟩ (ending.imp_right Or.inl)
    rw [unvisited, arrived]
    exact ⟨stays run unleased, still⟩
  | loses waits unleased =>
    obtain rfl := waits
    exact ⟨stays run unleased, exhausted.imp_right .inl⟩
  | reports waits =>
    obtain rfl := waits
    exact ⟨stays run rfl, exhausted.imp_right .inl⟩

/-- The leases of a longer log are those before and those that come with the event. -/
theorem batchesIn_step (history : History) (event : Event) :
    batchesIn (history.step plan event).log =
      batchesIn history.log ++ batchesIn (history.state.notes plan event) := by
  have untold (before after : Phase) : batchesIn (completingNotes before after) = [] := by
    unfold completingNotes
    split <;> rfl
  -- A report brings no links.
  simp only [batchesIn] at untold
  simp [History.step, batchesIn, untold]

/-- After every series of events a crawl is on schedule, and nothing is left to fetch where it waits for links
or is at its end, unless it was cut short. -/
theorem schedule_run (plan : Plan) (events : List Event) :
    Schedule.Run plan.settings.giveUpAfter (batchesIn (History.after plan events).log) (visits plan events)
        (History.after plan events).state.schedule ∧
      (History.after plan events).state.Exhausted (cutShort plan events = true) := by
  -- Each event is a move.
  induction events using List.reverseRecOn with
  | nil => exact ⟨.start, rfl⟩
  | append_singleton events event ih =>
    obtain ⟨run, exhausted⟩ := ih
    rw [visits_append_singleton, History.after_append_singleton, batchesIn_step, cutShort,
      occurs_append_singleton, Bool.or_eq_true]
    exact (step_move plan (History.after plan events).state event).schedule run exhausted

end Harvest.Crawl

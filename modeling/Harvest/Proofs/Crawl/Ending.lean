import Harvest.Proofs.Crawl.Balance
import Harvest.Proofs.Crawl.Flushes
import Harvest.Proofs.Crawl.Limits

/-! A crawl comes to its end if the coordinator leases finitely many links, whatever the pages are and however
they list each other. -/

namespace Harvest.Crawl

variable {plan : Plan}

/-- A crawl that is about to fetch has something to fetch. -/
def State.Going (state : State) : Prop :=
  match state.phase with
  | .checking | .connecting => state.queue.pending ≠ []
  | .fetching unanswered => unanswered ≠ []
  | _ => True

/-- A crawl goes on with another cycle only if there is something to fetch. -/
theorem State.proceed_going (state : State) : state.proceed.Going := by
  -- A dry queue ends in a question for more links.
  cases dry : state.queue.pending with
  | nil => simp [proceed, Going, dry]
  | cons target rest => simp [proceed, Going, dry]

/-- After an outcome a crawl waits for others, or it has something to fetch in the next cycle. -/
theorem State.afterOutcome_going (unanswered : List Target) (state : State) :
    (state.afterOutcome unanswered).Going := by
  -- Without another outcome to wait for, the queue decides.
  cases unanswered with
  | cons target rest => simp [afterOutcome, Going]
  | nil =>
    cases dry : state.queue.pending with
    | nil => simp [afterOutcome, Going, dry]
    | cons target rest => simp [afterOutcome, Going, dry]

/-- At the last flush there is nothing to fetch any more. -/
theorem State.store_going (stopped : Bool) (next : Option Writing) (state : State) :
    (state.store stopped next).Going := by
  -- No phase of the last flush looks at the queue.
  cases next with
  | some writing => trivial
  | none =>
    simp only [store, report?]
    split <;> trivial

/-- A crawl that is about to fetch always has something to fetch. -/
theorem going_step {state : State} (going : state.Going) (event : Event) : (state.step plan event).Going := by
  -- Of all moves only those that fetch depend on what is left.
  generalize after_step : state.step plan event = after
  have move : Move plan state event after := after_step ▸ step_move plan state event
  cases move with
  | rests phase queue => simpa only [State.Going, phase, queue] using going
  | leases => exact State.proceed_going _
  | runsDry => exact State.proceed_going _
  | @checks late waits =>
    cases late with
    | true => trivial
    | false =>
      simp only [State.Going, waits] at going
      exact going
  | @rechecks late waits => cases late <;> trivial
  | begins waits => simpa only [State.Going, waits] using going
  | visits => exact State.afterOutcome_going ..
  | stores => exact State.store_going ..
  | fails => trivial
  | stops => trivial
  | breaks => trivial
  | loses => trivial
  | reports => trivial

/-- How far a crawl is from its end if it fetches nothing more. -/
def State.distance (state : State) : Nat :=
  match state.phase with
  | .broken _ | .ended _ => 0
  | .reporting .. => 1
  | .storing _ writing => 1 + writesLeft (some writing)
  | .closing _ => 4 + writesLeft state.background
  | .fetching _ => 7
  | .connecting => 8
  | .checking => 9
  | .leasing | .leasingMore => 10
  | .rechecking => 11

/-- From a lease the next cycle or the end is nearer. -/
theorem State.distance_proceed (state : State) : state.proceed.distance < 10 := by
  -- The flush in the background may have two more writes to do, and no more.
  have few := writesLeft_le state.background
  by_cases dry : state.queue.pending.isEmpty = true
  · simp only [proceed, distance, dry, if_true]
    omega
  · simp [proceed, distance, dry]

/-- From a write of the last flush the next one or the end is nearer. -/
theorem State.distance_store (stopped : Bool) (next : Option Writing) (state : State) :
    (state.store stopped next).distance ≤ 1 + writesLeft next := by
  -- After the last write the report is sent, or there is nothing to report.
  cases next with
  | some writing => exact Nat.le_refl _
  | none =>
    simp only [store, report?]
    split
    · exact Nat.zero_le _
    · exact Nat.le_refl _

/-- Whatever a crawl waits for, it comes nearer to its end with the answer, unless it is that of a fetch. -/
theorem distance_next? {σ : Type} {world : Surroundings σ} {state : State} {here here' : σ} {event : Event}
    (next : world.next? plan state here = some (event, here')) (unvisited : state.visit? plan event = none) :
    (state.step plan event).distance < state.distance := by
  obtain ⟨phase, queue, buffer, background, identity, metrics, report⟩ := state
  have few := writesLeft_le background
  cases phase
  case broken | ended => cases next
  case fetching unanswered =>
    cases unanswered with
    | nil => cases next
    | cons target rest =>
      simp only [Surroundings.next?, List.head?_cons, Option.map_some, Option.some.injEq, Prod.mk.injEq] at next
      obtain ⟨rfl, -⟩ := next
      -- The answer to the first open target is a visit, unless the crawl breaks off.
      rw [State.step_broken rfl rfl (by simpa [State.visit?] using unvisited)]
      exact Nat.zero_lt_succ _
  -- In all other phases the event is what the surroundings answer.
  all_goals
    simp only [Surroundings.next?, Option.some.injEq, Prod.mk.injEq] at next
    obtain ⟨rfl, -⟩ := next
  -- Links that come lead on to a cycle, and without them the end is nearer.
  case leasing =>
    cases (world.lease here plan.rule.id plan.worker plan.settings.batchSize).1 with
    | ok links => exact State.distance_proceed _
    | error cause => exact Nat.zero_lt_succ _
  case leasingMore =>
    cases (world.lease here plan.rule.id plan.worker plan.settings.batchSize).1 <;>
      exact State.distance_proceed _
  case checking =>
    cases (world.isLate here).1 <;>
    · simp only [State.step, State.distance, Bool.false_eq_true, if_false, if_true]
      omega
  case rechecking =>
    cases (world.isLate here).1 <;>
    · simp only [State.step, State.distance, Bool.false_eq_true, if_false, if_true]
      omega
  case connecting => exact Nat.lt_succ_self _
  -- The flush in the background ends first, and then the last one begins with its first write.
  case closing stopped =>
    cases background with
    | none =>
      have near := State.distance_store stopped buffer.begin.1.firstWrite
        ⟨.closing stopped, queue, buffer.begin.2, none, identity, metrics, report⟩
      have short := writesLeft_le buffer.begin.1.firstWrite
      refine Nat.lt_of_le_of_lt near ?_
      simp only [State.distance]
      omega
    | some writing => exact Nat.add_lt_add_left (writesLeft_afterWrite buffer writing (.ok ())) 4
  -- A write that is answered leaves fewer writes, or breaks the flush off.
  case storing stopped writing =>
    generalize (world.write here (writing.request plan.rule.target).1
      (writing.request plan.rule.target).2).1 = reply
    have fewer := writesLeft_afterWrite buffer writing reply
    simp only [State.step]
    generalize buffer.afterWrite writing reply = written at fewer ⊢
    obtain ⟨left, cause | next⟩ := written
    · exact Nat.lt_of_lt_of_le Nat.zero_lt_one (Nat.le_add_right ..)
    · exact Nat.lt_of_le_of_lt (State.distance_store ..) (Nat.add_lt_add_left fewer 1)
  case reporting => exact Nat.zero_lt_one

/-- A crawl that goes on always waits for something until it is over. -/
theorem next?_of_going {σ : Type} (world : Surroundings σ) {state : State} (going : state.Going) (here : σ)
    (undone : ¬state.phase.IsDone) : ∃ next, world.next? plan state here = some next := by
  -- Only a cycle without open targets would wait for nothing.
  obtain ⟨phase, queue, buffer, background, identity, metrics, report⟩ := state
  cases phase with
  | broken unanswered => exact absurd trivial undone
  | ended result => exact absurd trivial undone
  | fetching unanswered =>
    cases unanswered with
    | nil => exact absurd rfl going
    | cons target rest => exact ⟨_, rfl⟩
  | _ => exact ⟨_, rfl⟩

/-- With one more event allowed a crawl goes one step further, if it waits for anything. -/
theorem runFrom_succ {σ : Type} (world : Surroundings σ) (plan : Plan) (fuel : Nat) (state : State) (here : σ) :
    runFrom world plan (fuel + 1) state here =
      match world.next? plan (runFrom world plan fuel state here).1 (runFrom world plan fuel state here).2 with
      | some (event, later) => ((runFrom world plan fuel state here).1.step plan event, later)
      | none => runFrom world plan fuel state here := by
  -- The events in front are taken one by one.
  induction fuel generalizing state here with
  | zero => rfl
  | succ fuel ih =>
    cases next : world.next? plan state here with
    | none => simp [runFrom, next]
    | some pair =>
      have first (more : Nat) : runFrom world plan (more + 1) state here =
          runFrom world plan more (state.step plan pair.1) pair.2 := by
        simp only [runFrom, next]
      rw [first (fuel + 1), first fuel]
      exact ih _ _

/-- A crawl is done some time if the links leased are limited in number. -/
theorem runFrom_ends {σ : Type} (world : Surroundings σ) (plan : Plan) (here : σ) {total : Nat}
    (finite : ∀ fuel, (runFrom world plan fuel (.start plan) here).1.report.allocated ≤ total) :
    ∃ fuel, (runFrom world plan fuel (.start plan) here).1.phase.IsDone := by
  by_contra endless
  push Not at endless
  -- No state on the way waits for a fetch of nothing.
  have going (fuel : Nat) : (runFrom world plan fuel (.start plan) here).1.Going := by
    induction fuel with
    | zero => trivial
    | succ fuel ih =>
      rw [runFrom_succ]
      split
      · exact going_step ih _
      · exact ih
  -- Otherwise it takes infinitely many events.
  choose next waits using fun fuel =>
    next?_of_going world (going fuel) (runFrom world plan fuel (.start plan) here).2 (endless fuel)
  have step (fuel : Nat) : (runFrom world plan (fuel + 1) (.start plan) here).1 =
      (runFrom world plan fuel (.start plan) here).1.step plan (next fuel).1 := by
    rw [runFrom_succ, waits fuel]
  -- The run is the history of these events.
  have state (fuel : Nat) : (runFrom world plan fuel (.start plan) here).1 =
      (History.after plan (firsts (fun time => (next time).1) fuel)).state := by
    induction fuel with
    | zero => rfl
    | succ fuel ih =>
      rw [step, ih, firsts_succ, History.after_append_singleton]
      rfl
  obtain ⟨last, stops⟩ := @visits_stop plan (fun time => (next time).1) total fun count => by
    rw [← (tallied_after plan _).1, ← state]
    exact finite count
  -- From some time on none of them is a fetch, and each brings the crawl nearer to its end.
  have nearer (more : Nat) : (runFrom world plan (last + more) (.start plan) here).1.distance + more ≤
      (runFrom world plan last (.start plan) here).1.distance := by
    induction more with
    | zero => exact Nat.le_refl _
    | succ more ih =>
      have unvisited := stops (last + more) (Nat.le_add_right ..)
      rw [← state] at unvisited
      have less := distance_next? (waits (last + more)) unvisited
      rw [← step, Nat.add_assoc] at less
      omega
  have above := nearer ((runFrom world plan last (.start plan) here).1.distance + 1)
  omega

/-- A crawl does not go round in circles, whatever its pages are: its targets are limited in depth and each
address is put back and fetched a limited number of times; with a limited number of links leased, fetches stop
and the crawl comes to its end. -/
theorem crawl_ends (total : Nat) :
    (∀ plan events, Limited plan events) ∧
    (∀ (plan : Plan) (events : Nat → Event),
      (∀ count, (batchesIn (History.after plan (firsts events count)).log).flatten.length ≤ total) →
        ∃ last, ∀ count, last ≤ count →
          (History.after plan (firsts events count)).state.visit? plan (events count) = none) ∧
    ∀ {σ : Type} (world : Surroundings σ) (rule : Rule) (worker : String) (settings : WorkerSettings)
      (proxy : ProxySettings) (here : σ),
      (∀ plan, Plan.make rule worker settings proxy = .ok plan → ∀ fuel,
        (runFrom world plan fuel (.start plan) here).1.report.allocated ≤ total) →
          ∃ fuel result, (run world fuel rule worker settings proxy here).1 = some result := by
  refine ⟨limited, fun plan events finite => visits_stop plan events finite, ?_⟩
  intro σ world rule worker settings proxy here finite
  unfold run
  cases made : Plan.make rule worker settings proxy with
  | error failure => exact ⟨0, _, rfl⟩
  | ok plan =>
    obtain ⟨fuel, done⟩ := runFrom_ends world plan here (finite plan made)
    -- It is at its end, or it has broken off.
    cases outcome : (runFrom world plan fuel (.start plan) here).1.phase
    case broken unanswered => exact ⟨fuel, .error .overrun, by simp only [outcome]⟩
    case ended result => exact ⟨fuel, result, by simp only [outcome]⟩
    all_goals
      rw [outcome] at done
      exact done.elim

/-- The number of links that an answer of the coordinator leases. -/
def leasedBy : Except Service.JobError (List Link) → Nat
  | .ok links => links.length
  | .error _ => 0

/-- The coordinator has only so many links left to lease, and nothing brings new ones. -/
structure Surroundings.Scarce {σ : Type} (world : Surroundings σ) (left : σ → Nat) : Prop where
  lease : ∀ here ruleId worker size,
    leasedBy (world.lease here ruleId worker size).1 + left (world.lease here ruleId worker size).2 ≤ left here
  isLate : ∀ here, left (world.isLate here).2 ≤ left here
  fetch : ∀ here target identity, left (world.fetch here target identity).2 ≤ left here
  write : ∀ here collection documents, left (world.write here collection documents).2 ≤ left here
  complete : ∀ here ids, left (world.complete here ids).2 ≤ left here

/-- The answer of the coordinator counts the links that it leases. -/
theorem State.allocated_leased (plan : Plan) {state : State}
    (waits : state.phase = .leasing ∨ state.phase = .leasingMore) (answer : Except Service.JobError (List Link)) :
    (state.step plan (.leased answer)).report.allocated = state.report.allocated + leasedBy answer := by
  -- Both questions for links count their answers alike.
  obtain ⟨phase, queue, buffer, background, identity, metrics, report⟩ := state
  simp only at waits
  rcases waits with rfl | rfl <;> cases answer <;> rfl

/-- The last flush leases nothing. -/
theorem State.allocated_store (stopped : Bool) (next : Option Writing) (state : State) :
    (state.store stopped next).report.allocated = state.report.allocated := by
  -- It waits for a write, or it ends with the report.
  cases next with
  | some writing => rfl
  | none =>
    simp only [store, report?]
    split <;> rfl

/-- The outcome of a fetch leases nothing. -/
theorem State.allocated_outcome (plan : Plan) {state : State} {unanswered : List Target} {index : Nat}
    {target : Target} (phase : state.phase = .fetching unanswered) (stands : unanswered[index]? = some target)
    (outcome : Outcome) (moment : Moment) :
    (state.step plan (.fetched index outcome moment)).report.allocated = state.report.allocated := by
  cases handled : state.handle plan target outcome moment with
  | none => rw [step_broken phase stands handled]
  | some after =>
    -- What is handled and what comes next both leave the count of leased links.
    have same : after.report.allocated = state.report.allocated := by rw [(handle_handled handled).report]
    rw [step_fetched phase stands handled, ← same]
    unfold afterOutcome
    split
    · rfl
    · split <;> rfl

/-- With each event the coordinator has fewer links left, by those that are leased. -/
theorem Surroundings.Scarce.next? {σ : Type} {world : Surroundings σ} {left : σ → Nat}
    (scarce : world.Scarce left) {state : State} {here here' : σ} {event : Event}
    (next : world.next? plan state here = some (event, here')) :
    (state.step plan event).report.allocated + left here' ≤ state.report.allocated + left here := by
  obtain ⟨phase, queue, buffer, background, identity, metrics, report⟩ := state
  cases phase
  case broken | ended => cases next
  case fetching unanswered =>
    cases unanswered with
    | nil => cases next
    | cons target rest =>
      simp only [Surroundings.next?, List.head?_cons, Option.map_some, Option.some.injEq, Prod.mk.injEq] at next
      obtain ⟨rfl, rfl⟩ := next
      exact Nat.add_le_add (State.allocated_outcome plan rfl rfl ..).le (scarce.fetch ..)
  all_goals
    simp only [Surroundings.next?, Option.some.injEq, Prod.mk.injEq] at next
    obtain ⟨rfl, rfl⟩ := next
  -- Only a lease that succeeds counts links.
  case leasing =>
    refine (Nat.add_le_add_right (State.allocated_leased plan (.inl rfl) _).le _).trans ?_
    exact (Nat.add_assoc ..).le.trans (Nat.add_le_add_left (scarce.lease ..) _)
  case leasingMore =>
    refine (Nat.add_le_add_right (State.allocated_leased plan (.inr rfl) _).le _).trans ?_
    exact (Nat.add_assoc ..).le.trans (Nat.add_le_add_left (scarce.lease ..) _)
  case checking =>
    refine Nat.add_le_add (Nat.le_of_eq ?_) (scarce.isLate here)
    cases (world.isLate here).1 <;> rfl
  case rechecking =>
    refine Nat.add_le_add (Nat.le_of_eq ?_) (scarce.isLate here)
    cases (world.isLate here).1 <;> rfl
  case connecting => exact Nat.le_refl _
  -- No write counts links.
  case closing stopped =>
    refine Nat.add_le_add_right (Nat.le_of_eq ?_) _
    cases background with
    | none => exact State.allocated_store ..
    | some writing => rfl
  case storing stopped writing =>
    refine Nat.add_le_add (Nat.le_of_eq ?_) (scarce.write ..)
    generalize (world.write here (writing.request plan.rule.target).1
      (writing.request plan.rule.target).2).1 = reply
    simp only [State.step]
    rcases buffer.afterWrite writing reply with ⟨rest, cause | next⟩
    · rfl
    · exact State.allocated_store ..
  case reporting => exact Nat.add_le_add_left (scarce.complete ..) _

/-- A coordinator that has only so many links left leases no more. -/
theorem Surroundings.Scarce.allocated_le {σ : Type} {world : Surroundings σ} {left : σ → Nat}
    (scarce : world.Scarce left) (plan : Plan) (here : σ) (fuel : Nat) :
    (runFrom world plan fuel (.start plan) here).1.report.allocated ≤ left here := by
  -- What is leased and what is left together never grow.
  have kept : (runFrom world plan fuel (.start plan) here).1.report.allocated +
      left (runFrom world plan fuel (.start plan) here).2 ≤ left here := by
    induction fuel with
    | zero => exact Nat.le_of_eq (Nat.zero_add _)
    | succ fuel ih =>
      rw [runFrom_succ]
      cases next : world.next? plan (runFrom world plan fuel (.start plan) here).1
          (runFrom world plan fuel (.start plan) here).2 with
      | none => exact ih
      | some pair => exact (scarce.next? next).trans ih
  exact (Nat.le_add_right ..).trans kept

/-- One link is leased, and its page lists its own address again and again. -/
def echo : Surroundings Nat where
  lease left _ _ _ :=
    if left = 0 then (.ok [], 0)
    else (.ok [{ id := "1", url := "http://s/a", ruleId := "r", updated := 0 }], left - 1)
  isLate left := (false, left)
  fetch left _ _ := ((.answered 200 [] "<li><a href=/a>x</a></li>", ⟨0, 0, "f"⟩), left)
  write left _ _ := (.ok (), left)
  complete left _ := (.ok (), left)

/-- The coordinator of the echo has as many links left as it says. -/
theorem echo_scarce : echo.Scarce id where
  lease here ruleId worker size := by
    cases here <;> simp [echo, leasedBy, Nat.add_comm]
  isLate _ := Nat.le_refl _
  fetch _ _ _ := Nat.le_refl _
  write _ _ _ := Nat.le_refl _
  complete _ _ := Nat.le_refl _

/-- The crawl of a page that lists itself comes to its end. -/
theorem crawl_ends_echo : ∃ fuel result,
    (run echo fuel listingPlan.rule "w" listingPlan.settings {} 1).1 = some result :=
  (crawl_ends 1).2.2 echo _ _ _ _ 1 fun plan _ fuel => echo_scarce.allocated_le plan 1 fuel

end Harvest.Crawl

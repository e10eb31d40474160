import Harvest.Proofs.Crawl.Ending
import Harvest.Proofs.Crawl.Script

/-! A crawl that meets what a script says goes through its rounds, in whatever order the fetches of a cycle are
answered. -/

namespace Harvest.Crawl

variable {script : Script} {plan : Plan}

/-- Does an event say whether the client can be made that a crawl has asked for? -/
def State.asksClient (state : State) : Event → Bool
  | .client _ => match state.phase with
    | .connecting => true
    | _ => false
  | _ => false

/-- The number of clients that a crawl has asked for. -/
def clientsAsked (plan : Plan) (events : List Event) : Nat :=
  (turns plan events).countP fun (state, event) => state.asksClient event

/-- One event more asks for one client more at most. -/
theorem clientsAsked_append_singleton (plan : Plan) (events : List Event) (event : Event) :
    clientsAsked plan (events ++ [event]) =
      clientsAsked plan events + if (History.after plan events).state.asksClient event then 1 else 0 := by
  rw [clientsAsked, turns_append_singleton, List.countP_append, List.countP_singleton, ← clientsAsked]

/-- Does an event agree with a script, as far as a crawl waits for it? The time is never up. -/
def Script.allows (script : Script) (state : State) (leases asked : Nat) (earlier : List Visit)
    (event : Event) : Bool :=
  match event, state.phase with
  | .leased reply, .leasing | .leased reply, .leasingMore => decide (reply = script.lease leases)
  | .clock late, .checking | .clock late, .rechecking => !late
  | .client made, .connecting => made == script.client asked
  | .fetched index outcome _, .fetching unanswered =>
    match unanswered[index]? with
    | some target => decide (outcome = script.fetch target.url (fetchesAt earlier target.url))
    | none => true
  | _, _ => true

/-- Does an event agree with a script after others? -/
def Script.allowsAfter (script : Script) (plan : Plan) (earlier : List Event) (event : Event) : Bool :=
  script.allows (History.after plan earlier).state (batchesIn (History.after plan earlier).log).length
    (clientsAsked plan earlier) (visits plan earlier) event

/-- Does a crawl meet what a script says at all of its events? -/
def Script.Follows (script : Script) (plan : Plan) (events : List Event) : Prop :=
  ∀ count, (short : count < events.length) → script.allowsAfter plan (events.take count) events[count] = true

instance (script : Script) (plan : Plan) (events : List Event) : Decidable (script.Follows plan events) :=
  inferInstanceAs (Decidable (∀ count, (short : count < events.length) →
    script.allowsAfter plan (events.take count) events[count] = true))

/-- A crawl that follows a script with one event more follows it up to there, and the event agrees. -/
theorem Script.Follows.of_append_singleton {events : List Event} {event : Event}
    (follows : script.Follows plan (events ++ [event])) :
    script.Follows plan events ∧ script.allowsAfter plan events event = true := by
  -- The events up to there are the same with the last one and without it.
  refine ⟨fun count short => ?_, ?_⟩
  · have agrees := follows count (by simp; omega)
    rwa [List.take_append_of_le_length short.le, List.getElem_append_left short] at agrees
  · simpa using follows events.length (by simp)

/-- Is the loop of a crawl over, so that nothing is fetched any more? -/
def Phase.isOver : Phase → Bool
  | .closing _ | .storing .. | .reporting .. | .ended _ => true
  | _ => false

namespace Script

/-- A cycle under way: of what was due at its start, some has been fetched as the script tells, and the rest is
open. -/
structure Cycle (script : Script) (plan : Plan) (cycles leases : Nat) (done round : List Attempt)
    (unanswered : List Target) : Prop where
  rounds : script.Rounds plan cycles leases done
  made : script.client cycles = true
  all : (round ++ unanswered.map (script.tell plan done)).Perm
    ((script.dueAfter plan leases done).map (script.tell plan done))

/-- Where a crawl is in the rounds of a script: between them, in a cycle, or at their end. Nothing is said of a crawl
that has broken off. -/
def Tracks (script : Script) (plan : Plan) (phase : Phase) (leased : List (List Link)) (asked : Nat)
    (attempts : List Attempt) : Prop :=
  match phase with
  | .leasing | .checking | .connecting | .rechecking | .leasingMore =>
    leased = script.batches leased.length ∧ script.Rounds plan asked leased.length attempts
  | .fetching unanswered => leased = script.batches leased.length ∧ ∃ cycles done round, asked = cycles + 1 ∧
    attempts = done ++ round ∧ script.Cycle plan cycles leased.length done round unanswered
  | .broken _ => True
  | .closing _ | .storing .. | .reporting .. | .ended _ => ∃ cycles leases,
    leased.flatten = (script.batches leases).flatten ∧ script.Rounds plan cycles leases attempts ∧
      script.Halts plan cycles leases attempts

variable {cycles leases : Nat} {done round : List Attempt} {unanswered : List Target}

/-- The targets of a cycle have been fetched or are open, each once. -/
theorem Cycle.targets (cycle : script.Cycle plan cycles leases done round unanswered) :
    (round.map (·.target) ++ unanswered).Perm (script.dueAfter plan leases done) := by
  -- An attempt is the one the script tells for its target, so that the targets alone are compared.
  have targets := cycle.all.map (·.target)
  have told (list : List Target) : list.map ((·.target) ∘ script.tell plan done) = list := List.map_id list
  rwa [List.map_append, List.map_map, List.map_map, told, told] at targets

/-- The attempts of a cycle do not change what comes of its open targets. -/
theorem Cycle.tell_open (cycle : script.Cycle plan cycles leases done round unanswered)
    (once : Once (script.batches leases) (visitsOf (done ++ round))) {target : Target}
    (stands : target ∈ unanswered) : script.tell plan (done ++ round) target = script.tell plan done target := by
  rw [visitsOf_append] at once
  have queued : target ∈ enqueued (script.batches leases) (visitsOf done) :=
    (List.mem_filter.mp (cycle.targets.mem_iff.mp (List.mem_append_right _ stands))).1
  have before : Once (script.batches leases) (visitsOf done) :=
    once.earlier List.prefix_rfl (List.prefix_append ..)
  -- Its address has not been visited in the cycle, nor named there.
  have unvisited : fetchesAt (visitsOf round) target.url = 0 := by
    have distinct : ((script.dueAfter plan leases done).map (·.url)).Nodup :=
      before.sublist (List.filter_sublist.map _)
    have apart := (cycle.targets.map (·.url)).nodup_iff.mpr distinct
    rw [List.map_append, List.nodup_append] at apart
    rw [fetchesAt, visitsOf, List.map_map, targetsAt, List.countP_eq_zero]
    exact fun other among same => apart.2.2 _ (List.mem_map_of_mem among) _ (List.mem_map_of_mem stands)
      (by simpa using same)
  refine tell_congr ?_ ?_
  · rw [visitsOf_append, fetchesAt_append, unvisited, Nat.add_zero]
  · rw [visitsOf_append, listedValue_append_of_unnamed _ (once.unnamed queued)]

/-- A cycle goes on with each of its open targets. -/
theorem Cycle.visit (cycle : script.Cycle plan cycles leases done round unanswered) {index : Nat}
    {target : Target} (stands : unanswered[index]? = some target) :
    script.Cycle plan cycles leases done (round ++ [script.tell plan done target])
      (unanswered.eraseIdx index) where
  rounds := cycle.rounds
  made := cycle.made
  all := by
  -- Its target moves from the open ones to those fetched.
    obtain ⟨inside, rfl⟩ := List.getElem?_eq_some_iff.mp stands
    refine .trans ?_ cycle.all
    rw [List.append_assoc, List.singleton_append, ← List.map_cons]
    exact ((List.getElem_cons_eraseIdx_perm inside).map _).append_left _

/-- Without open targets a cycle is over. -/
theorem Cycle.completed (cycle : script.Cycle plan cycles leases done round [])
    (once : Once (script.batches leases) (visitsOf done)) (some_done : round ≠ []) :
    script.Rounds plan (cycles + 1) leases (done ++ round) := by
  -- The round has then answered everything that was due at its beginning.
  have all : round.Perm ((script.dueAfter plan leases done).map (script.tell plan done)) := by
    simpa using cycle.all
  refine .cycle cycle.rounds (fun dry => some_done ?_) cycle.made once all
  exact (dry ▸ all).eq_nil

end Script

/-- The attempt at a target that is left to visit is the one that the script tells. -/
theorem State.attempt_eq_tell {state : State} {batches : List (List Link)} {attempts : List Attempt}
    (run : Schedule.Run plan.settings.giveUpAfter batches (visitsOf attempts) state.schedule)
    (once : Once batches (visitsOf attempts)) {target : Target} (stands : target ∈ state.schedule.outstanding)
    {outcome : Outcome} (agrees : outcome = script.fetch target.url (fetchesAt (visitsOf attempts) target.url)) :
    state.attempt plan target outcome = script.tell plan attempts target := by
  -- Its value is that of its listing, and all its visits have failed.
  obtain ⟨limit, counted⟩ := run.attempts
  have value := run.parentValue_eq once (.inl (List.mem_map_of_mem stands))
  have failed := (run.alone once stands).2.1
  simp only [schedule] at limit counted value
  simp only [attempt, Script.tell, Queue.putsBack, find_eq, value, limit, counted, ← failed, ← agrees]

/-- An event that does not change the phase does not say anything about a client that was asked for. -/
theorem State.asksClient_of_phase {state : State} {event : Event}
    (stays : (state.step plan event).phase = state.phase) : state.asksClient event = false := by
  -- The answer about a client always changes the phase.
  obtain ⟨phase, queue, buffer, background, identity, metrics, report⟩ := state
  cases event with
  | client made =>
    cases phase with
    | connecting => cases made <;> cases stays
    | _ => rfl
  | _ => rfl

/-- With one lease more its links come to those before. -/
theorem Script.batches_succ (script : Script) (leases : Nat) :
    script.batches (leases + 1) = script.batches leases ++ [script.lends leases] := by
  simp [batches, List.range_succ]

/-- Once the loop is over, a crawl has come to the end of the rounds. -/
theorem Script.tracks_of_isOver {phase : Phase} {leased : List (List Link)} {asked : Nat}
    {attempts : List Attempt} (ended : phase.isOver = true) :
    script.Tracks plan phase leased asked attempts ↔ ∃ cycles leases,
      leased.flatten = (script.batches leases).flatten ∧ script.Rounds plan cycles leases attempts ∧
        script.Halts plan cycles leases attempts := by
  cases phase <;> first | rfl | cases ended

/-- Without anything due, a crawl that is lent no more links has come to the end of the rounds. -/
theorem Script.tracks_of_spent {phase : Phase} {leased : List (List Link)} {asked : Nat} {attempts : List Attempt}
    (ended : phase.isOver = true) (own : leased = script.batches leased.length)
    (rounds : script.Rounds plan asked leased.length attempts)
    (dry : script.dueAfter plan leased.length attempts = []) (spent : script.lends leased.length = []) :
    script.Tracks plan phase leased asked attempts :=
  -- The crawl stops after the rounds that it has gone through.
  (tracks_of_isOver ended).mpr ⟨asked, leased.length, congrArg _ own, rounds, .inl ⟨dry, spent⟩⟩

/-- With the attempt at one of its open targets a cycle goes on, or it is over. -/
theorem Script.Cycle.tracks {leased : List (List Link)} {cycles index : Nat} {done round : List Attempt}
    {unanswered : List Target} {target : Target} {state : State}
    (cycle : script.Cycle plan cycles leased.length done round unanswered)
    (stands : unanswered[index]? = some target) (own : leased = script.batches leased.length)
    (once : Once leased (visitsOf done)) :
    script.Tracks plan (state.afterOutcome (unanswered.eraseIdx index)).phase leased (cycles + 1)
      (done ++ (round ++ [script.tell plan done target])) := by
  -- It is over if its last target was answered.
  have goesOn := cycle.visit stands
  cases rest : unanswered.eraseIdx index with
  | cons other more =>
    rw [rest] at goesOn
    exact ⟨own, cycles, done, _, rfl, rfl, goesOn⟩
  | nil =>
    rw [rest] at goesOn
    have between := goesOn.completed (own ▸ once) (by simp)
    simp only [State.afterOutcome, List.isEmpty_nil, Bool.not_true, Bool.false_eq_true, if_false]
    split <;> exact ⟨own, between⟩

/-- With the last flush the loop is over. -/
theorem State.store_isOver (stopped : Bool) (next : Option Writing) (state : State) :
    (state.store stopped next).phase.isOver = true := by
  -- It waits for a write, or it ends with the report.
  cases next with
  | some writing => rfl
  | none =>
    simp only [store, report?]
    split <;> rfl

/-- A crawl that follows a script goes on with its rounds at every event. -/
theorem tracks_step {state : State} {event : Event} {leased : List (List Link)} {asked : Nat}
    {attempts : List Attempt} {cut : Prop} (tracks : script.Tracks plan state.phase leased asked attempts)
    (run : Schedule.Run plan.settings.giveUpAfter leased (visitsOf attempts) state.schedule)
    (exhausted : state.Exhausted cut) (going : state.Going)
    (once : Once (leased ++ batchesIn (state.notes plan event))
      (visitsOf (attempts ++ (state.attempt? plan event).toList)))
    (agrees : script.allows state leased.length asked (visitsOf attempts) event = true) :
    script.Tracks plan (state.step plan event).phase (leased ++ batchesIn (state.notes plan event))
      (asked + if state.asksClient event then 1 else 0) (attempts ++ (state.attempt? plan event).toList) := by
  -- What is outstanding is what is due, in another order. Each event then is a lease, the begin of a cycle, a visit
  -- in it or the end, and any other event leaves the rounds as they are.
  have before : Once leased (visitsOf attempts) :=
    once.earlier (List.prefix_append ..) (visitsOf_append .. ▸ List.prefix_append ..)
  have left (own : leased = script.batches leased.length) :
      state.schedule.outstanding.Perm (script.dueAfter plan leased.length attempts) := by
    rw [Script.dueAfter, ← own]
    exact run.outstanding_perm before
  -- Nothing is due where nothing is open and the queue is dry.
  have nothing (own : leased = script.batches leased.length) (idle : state.unanswered = [])
      (dry : state.queue.pending = []) : script.dueAfter plan leased.length attempts = [] := by
    have due := left own
    rw [Schedule.outstanding, State.schedule, idle, dry] at due
    exact due.symm.eq_nil
  generalize after_step : state.step plan event = after
  have move : Move plan state event after := after_step ▸ step_move plan state event
  cases move with
  | rests phase queue report unleased unvisited =>
    have untried : state.attempt? plan event = none := by
      rwa [State.visit?_eq, Option.map_eq_none_iff] at unvisited
    have unasked : state.asksClient event = false := @State.asksClient_of_phase plan _ _ (after_step ▸ phase)
    rw [unleased, untried, unasked, phase]
    simpa using tracks
  -- A lease is asked for when nothing is due, so that it either begins another round or ends them.
  | @leases links waits =>
    obtain ⟨dry, idle, ⟨own, rounds⟩, agreed, noted⟩ : state.queue.pending = [] ∧ state.unanswered = [] ∧
        (leased = script.batches leased.length ∧ script.Rounds plan asked leased.length attempts) ∧
        .ok links = script.lease leased.length ∧
          batchesIn (state.notes plan (.leased (.ok links))) = [links] := by
      rcases waits with same | same <;>
        exact ⟨by simpa only [same, State.Exhausted] using exhausted, by simp only [State.unanswered, same],
          by simpa only [same, Script.Tracks] using tracks, by simpa [Script.allows, same] using agrees,
          by simp [State.notes, same, batchesIn, Note.batch?]⟩
    have lent : script.lends leased.length = links := by rw [Script.lends, ← agreed]
    have none_due := nothing own idle dry
    simp only [noted, State.attempt?, State.asksClient, Option.toList_none, List.append_nil, Bool.false_eq_true,
      if_false, Nat.add_zero, State.proceed, State.seed, Queue.seed, dry, List.nil_append]
    cases links with
    | nil =>
      refine ⟨asked, leased.length, ?_, rounds, .inl ⟨none_due, lent⟩⟩
      rw [← own]
      simp
    | cons link rest =>
      refine ⟨?_, ?_⟩
      · rw [List.length_append, List.length_singleton, Script.batches_succ, ← own, lent]
      · rw [List.length_append, List.length_singleton]
        exact .lease rounds none_due (by simp [lent])
  -- A lease that fails is one of no links.
  | @fails cause waits =>
    simp only [waits, Script.Tracks, State.Exhausted] at tracks exhausted
    have agreed : .error cause = script.lease leased.length := by
      simpa [Script.allows, waits] using agrees
    have none_due := nothing tracks.1 (by simp only [State.unanswered, waits]) exhausted
    simp only [State.notes, batchesIn, State.attempt?, List.filterMap_nil, List.append_nil, Option.toList_none]
    exact Script.tracks_of_spent rfl tracks.1 tracks.2 none_due (by rw [Script.lends, ← agreed])
  | @runsDry cause waits =>
    simp only [waits, Script.Tracks, State.Exhausted] at tracks exhausted
    have agreed : .error cause = script.lease leased.length := by
      simpa [Script.allows, waits] using agrees
    have none_due := nothing tracks.1 (by simp only [State.unanswered, waits]) exhausted
    simp only [State.notes, batchesIn, State.attempt?, List.filterMap_nil, List.append_nil, Option.toList_none,
      State.proceed, exhausted]
    exact Script.tracks_of_spent rfl tracks.1 tracks.2 none_due (by rw [Script.lends, ← agreed])
  -- By the script no crawl is late.
  | @checks late waits =>
    obtain rfl : late = false := by simpa [Script.allows, waits] using agrees
    simpa [State.attempt?, State.notes, State.asksClient, batchesIn, Script.Tracks, waits] using tracks
  | @rechecks late waits =>
    obtain rfl : late = false := by simpa [Script.allows, waits] using agrees
    simpa [State.attempt?, State.notes, State.asksClient, batchesIn, Script.Tracks, waits] using tracks
  -- The queue, which is what is due, becomes the round of a new cycle.
  | begins waits =>
    simp only [waits, Script.Tracks] at tracks
    obtain ⟨own, rounds⟩ := tracks
    have due := left own
    simp only [Schedule.outstanding, State.schedule, State.unanswered, waits, List.nil_append] at due
    have made : script.client asked = true := by
      simpa [Script.allows, waits] using agrees
    simp only [State.notes, batchesIn, State.attempt?, State.asksClient, waits, List.filterMap_nil,
      List.append_nil, Option.toList_none, if_true]
    exact ⟨own, asked, attempts, [], rfl, (List.append_nil _).symm, rounds, made, due.map _⟩
  -- Without a client the crawl stops, with something due.
  | stops waits =>
    simp only [waits, Script.Tracks] at tracks
    obtain ⟨own, rounds⟩ := tracks
    have due := left own
    simp only [Schedule.outstanding, State.schedule, State.unanswered, waits, List.nil_append] at due
    have unmade : script.client asked = false := by
      simpa [Script.allows, waits] using agrees
    simp only [State.Going, waits] at going
    simp only [State.notes, batchesIn, State.attempt?, List.filterMap_nil, List.append_nil, Option.toList_none]
    exact ⟨asked, leased.length, congrArg _ own, rounds, .inr ⟨fun dry => going (dry ▸ due).eq_nil, unmade⟩⟩
  | breaks => trivial
  -- The attempt is the one that the script tells for its target, in whatever order targets are answered.
  | @visits index outcome moment unanswered target after waits stands handled unleased =>
    simp only [waits, Script.Tracks] at tracks
    obtain ⟨own, cycles, done, round, rfl, rfl, cycle⟩ := tracks
    have tried : state.attempt? plan (.fetched index outcome moment) =
        some (state.attempt plan target outcome) := by
      simp [State.attempt?, waits, stands, handled]
    have agreed : outcome = script.fetch target.url (fetchesAt (visitsOf (done ++ round)) target.url) := by
      simpa [Script.allows, waits, stands] using agrees
    have open_target : target ∈ unanswered := List.mem_of_getElem? stands
    have told : state.attempt plan target outcome = script.tell plan done target := by
      rw [State.attempt_eq_tell run before ?_ agreed]
      · exact cycle.tell_open (own ▸ before) open_target
      · simp [Schedule.outstanding, State.schedule, State.unanswered, waits, open_target]
    rw [unleased, tried, told, List.append_nil, Option.toList_some, List.append_assoc]
    refine cycle.tracks stands own (before.earlier List.prefix_rfl ?_)
    rw [visitsOf_append]
    exact List.prefix_append ..
  -- From here on the crawl is over, and its rounds stay as they were.
  | @stores event stopped next left waits unleased unvisited =>
    have untried : state.attempt? plan event = none := by
      rwa [State.visit?_eq, Option.map_eq_none_iff] at unvisited
    have ended : state.phase.isOver = true := by
      rcases waits with same | ⟨writing, same⟩ <;> rw [same] <;> rfl
    rw [Script.tracks_of_isOver ended] at tracks
    rw [Script.tracks_of_isOver (State.store_isOver ..), unleased, untried]
    simpa using tracks
  | @loses reply cause stopped writing buffer waits unleased =>
    rw [unleased]
    simpa [State.attempt?, State.asksClient, Script.Tracks, waits] using tracks
  | @reports reply stopped ids waits =>
    simpa [State.attempt?, State.notes, State.asksClient, batchesIn, State.finish, Script.Tracks, waits]
      using tracks

/-- A crawl always has something to fetch when it is about to fetch. -/
theorem going_after (plan : Plan) (events : List Event) : (History.after plan events).state.Going := by
  -- By the events from the end, each of which keeps it.
  induction events using List.reverseRecOn with
  | nil => trivial
  | append_singleton events event ih =>
    rw [History.after_append_singleton]
    exact going_step ih event

/-- A crawl that follows a script goes through its rounds, if no address is queued twice. -/
theorem tracks {events : List Event} (follows : script.Follows plan events)
    (once : Once (batchesIn (History.after plan events).log) (visits plan events)) :
    script.Tracks plan (History.after plan events).state.phase (batchesIn (History.after plan events).log)
      (clientsAsked plan events) (attempts plan events) := by
  -- Each event goes on with them.
  induction events using List.reverseRecOn with
  | nil => exact ⟨rfl, .start⟩
  | append_singleton events event ih =>
    obtain ⟨follows, agrees⟩ := follows.of_append_singleton
    obtain ⟨run, exhausted⟩ := schedule_run plan events
    have tracked := ih follows (once.earlier
      (by rw [History.after_append_singleton, batchesIn_step]; exact List.prefix_append ..)
      (by rw [visits_append_singleton]; exact List.prefix_append ..))
    rw [visits_eq, ← visitsOf] at run once
    rw [Script.allowsAfter, visits_eq, ← visitsOf] at agrees
    rw [History.after_append_singleton, batchesIn_step, attempts_append_singleton] at once ⊢
    rw [clientsAsked_append_singleton]
    exact tracks_step tracked run exhausted (going_after plan events) once agrees

end Harvest.Crawl

import Harvest.Proofs.Crawl.Budget

/-! However a crawl goes on, it puts each address back a limited number of times, and as long as the coordinator
leases finitely many links, it fetches finitely often. It breaks off only where more targets are queued at one address
than can be counted. -/

namespace Harvest.Crawl

variable {plan : Plan}

/-- The target that an event has put back into the queue. -/
def State.putBack? (plan : Plan) (state : State) (event : Event) : Option Target :=
  (state.visit? plan event).bind fun visit =>
    if visit.finding.fails && (state.queue.requeue visit.target).any (·.1) then some visit.target else none

/-- The targets that a crawl has put back, in order. -/
def putBacks (plan : Plan) (events : List Event) : List Target :=
  (turns plan events).filterMap fun (state, event) => state.putBack? plan event

/-- The targets that a crawl has queued, as leased links or as detail pages. -/
def queuedIn (plan : Plan) (events : List Event) : List Target :=
  enqueued (batchesIn (History.after plan events).log) (visits plan events)

/-- A target is put back if its address was not put back too often. -/
theorem Queue.retried_again (queue : Queue) (target : Target) :
    (queue.retried target).1 = decide (queue.attemptsAt target.url < queue.giveUpAfter) := by
  -- It is put back unless the counter, raised by this failure, is above the limit.
  by_cases often : queue.giveUpAfter < queue.attemptsAt target.url + 1
  · have many : ¬queue.attemptsAt target.url < queue.giveUpAfter := by omega
    simp [retried, often, many]
  · have few : queue.attemptsAt target.url < queue.giveUpAfter := by omega
    simp [retried, often, few]

/-- A visit puts its target back if it fails and its address was not put back too often. -/
theorem State.putBack?_of_visit? {state : State} {event : Event} {visit : Visit}
    (visited : state.visit? plan event = some visit) :
    state.putBack? plan event = if state.queue.putsBack visit then some visit.target else none := by
  rw [putBack?, visited, Option.bind_some, Queue.putsBack]
  -- Without a failure nothing is counted.
  cases fails : visit.finding.fails with
  | false => rfl
  | true =>
    rw [requeue_of_visit? visited fails, Option.any_some, Queue.retried_again]

/-- The failures of an address are counted in a word. -/
theorem failuresAt_lt (plan : Plan) (events : List Event) (url : String) :
    failuresAt (visits plan events) url < Word.halfBound := by
  induction events using List.reverseRecOn with
  | nil => exact (by decide : 0 < Word.halfBound)
  | append_singleton events event ih =>
    rw [visits_append_singleton]
    cases visited : (History.after plan events).state.visit? plan event with
    | none => simpa using ih
    | some visit =>
      rw [Option.toList_some, failuresAt_append_singleton]
      split
      · rename_i counts
        obtain ⟨fails, rfl⟩ := counts
        -- Had there been no word left, the crawl would have broken off.
        rw [← (schedule_run plan events).1.attempts.2]
        exact (Queue.requeue_eq_some_iff.mp (State.requeue_of_visit? visited fails)).1
      · exact ih

/-- A crawl that has broken off has an open target whose failure could not be counted. -/
theorem broken_after (plan : Plan) (events : List Event) {unanswered : List Target}
    (broken : (History.after plan events).state.phase = .broken unanswered) :
    ∃ target ∈ unanswered, Word.halfBound ≤ (History.after plan events).state.queue.attemptsAt target.url + 1 := by
  induction events using List.reverseRecOn with
  | nil => cases broken
  | append_singleton events event ih =>
    rw [History.after_append_singleton] at broken ⊢
    have move := step_move plan (History.after plan events).state event
    change (State.step plan (History.after plan events).state event).phase = _ at broken
    change ∃ target ∈ unanswered, _ ≤ (State.step plan (History.after plan events).state event).queue.attemptsAt _ + 1
    generalize State.step plan (History.after plan events).state event = after at move broken
    generalize (History.after plan events).state = before at ih move
    -- Only one move leads here, and from here on nothing is counted.
    cases move with
    | rests phase queue report unleased unvisited =>
      rw [queue]
      exact ih (phase ▸ broken)
    | @breaks index outcome moment others target waits stands stuck unleased =>
      obtain rfl : others = unanswered := Phase.broken.inj broken
      exact ⟨target, List.mem_of_getElem? stands, (handle_eq_none_iff.mp stuck).2⟩
    -- All other moves lead to other phases.
    | leases | runsDry =>
      unfold State.proceed at broken
      dsimp only at broken
      split at broken <;> cases broken
    | checks | rechecks =>
      dsimp only at broken
      split at broken <;> cases broken
    | visits =>
      unfold State.afterOutcome at broken
      split at broken
      · cases broken
      · split at broken <;> cases broken
    | @stores event stopped next buffer waits =>
      cases next with
      | some writing => cases broken
      | none =>
        unfold State.store State.report? at broken
        dsimp only at broken
        split at broken <;> cases broken
    | _ => cases broken

/-- What a crawl puts back is what returns by its visits. -/
theorem putBacks_eq (plan : Plan) (events : List Event) :
    putBacks plan events = returned plan.settings.giveUpAfter (visits plan events) := by
  induction events using List.reverseRecOn with
  | nil => rfl
  | append_singleton events event ih =>
    obtain ⟨limit, counted⟩ := (schedule_run plan events).1.attempts
    simp only [State.schedule] at limit counted
    rw [putBacks, turns_append_singleton, List.filterMap_append, ← putBacks, ih, visits_append_singleton]
    -- The queue has counted the failures that the visits tell.
    cases visited : (History.after plan events).state.visit? plan event with
    | none => simp [State.putBack?, visited]
    | some visit =>
      rw [Option.toList_some, returned_append_singleton, Visit.returns, ← counted, ← limit, ← Queue.putsBack]
      simp only [List.filterMap_cons, List.filterMap_nil, State.putBack?_of_visit? visited]
      cases (History.after plan events).state.queue.putsBack visit <;> rfl

/-- What limits a crawl after a series of events. -/
structure Limited (plan : Plan) (events : List Event) : Prop where
  /-- An address is put back a limited number of times. -/
  putBack : ∀ url, targetsAt (putBacks plan events) url ≤ plan.settings.giveUpAfter
  /-- It is fetched, or being fetched, as often as it was queued and may be put back, at most. -/
  fetched : ∀ url,
    targetsAt ((visits plan events).map Visit.target ++ (History.after plan events).state.unanswered) url ≤
      targetsAt (queuedIn plan events) url + plan.settings.giveUpAfter
  /-- Its failures are counted no higher than that, and always in a word. -/
  counted : ∀ url, (History.after plan events).state.queue.attemptsAt url ≤
      targetsAt (queuedIn plan events) url + plan.settings.giveUpAfter ∧
    (History.after plan events).state.queue.attemptsAt url < Word.halfBound
  /-- The crawl breaks off only at an open target whose address has been counted up to the last word, for which about as
  many targets have to be queued there. -/
  broken : ∀ unanswered, (History.after plan events).state.phase = .broken unanswered →
    ∃ target ∈ unanswered,
      (History.after plan events).state.queue.attemptsAt target.url + 1 = Word.halfBound ∧
        Word.halfBound ≤ targetsAt (queuedIn plan events) target.url + plan.settings.giveUpAfter
  /-- No queued target is deeper than a detail page. -/
  depths : ∀ target ∈ (History.after plan events).state.queue.pending ++
    (History.after plan events).state.unanswered ++ queuedIn plan events, target.depth = 1 ∨ target.depth = 2
  /-- A fetch adds to the queue what its page lists, if it is at depth one, and its own target, if that is put
  back. -/
  adds : ∀ turn ∈ turns plan events, ∀ visit, turn.1.visit? plan turn.2 = some visit →
    (turn.1.step plan turn.2).queue.pending =
      turn.1.queue.pending ++ visit.details ++ (turn.1.putBack? plan turn.2).toList ∧
    (visit.details ≠ [] → visit.target.depth = 1)
  /-- All in all there are at most so many fetches. -/
  total : (visits plan events).length ≤ (plan.settings.giveUpAfter + 1) * (queuedIn plan events).length

/-- A crawl is limited, whatever happens around it. -/
theorem limited (plan : Plan) (events : List Event) : Limited plan events := by
  -- All of it is told by the leases and the visits that have led here.
  obtain ⟨run, -⟩ := schedule_run plan events
  exact {
    putBack := fun url => by
      rw [putBacks_eq, targetsAt_returned]
      exact Nat.min_le_right ..
    fetched := fun url => by
      have bound := run.targetsAt_le url
      rw [Schedule.outstanding, ← List.append_assoc, targetsAt, List.countP_append] at bound
      exact (Nat.le_add_right ..).trans bound
    counted := fun url => by
      have bound := run.targetsAt_le url
      rw [targetsAt, List.countP_append] at bound
      rw [show (History.after plan events).state.queue.attemptsAt url = _ from run.attempts.2 url]
      exact ⟨(failuresAt_le _ url).trans ((Nat.le_add_right ..).trans bound), failuresAt_lt plan events url⟩
    broken := fun unanswered phase => by
      obtain ⟨target, among, large⟩ := broken_after plan events phase
      have counts : (History.after plan events).state.queue.attemptsAt target.url = _ := run.attempts.2 target.url
      have small := failuresAt_lt plan events target.url
      -- The target is still open, so that it comes on top of those that have been visited.
      have opens : 1 ≤ targetsAt (History.after plan events).state.schedule.outstanding target.url := by
        refine List.countP_pos_iff.mpr ⟨target, List.mem_append_left _ ?_, decide_eq_true rfl⟩
        rwa [State.schedule, State.unanswered, phase]
      have bound := run.targetsAt_le target.url
      rw [targetsAt, List.countP_append] at bound
      have fails := failuresAt_le (visits plan events) target.url
      simp only [targetsAt, fetchesAt] at opens fails
      refine ⟨target, among, by omega, ?_⟩
      rw [queuedIn]
      omega
    depths := fun target among => by
      refine run.depth_of_enqueued ?_
      rcases List.mem_append.mp among with outstanding | queued
      · refine run.mem_enqueued target (List.mem_append_right _ ?_)
        exact List.mem_append.mpr (List.mem_append.mp outstanding).symm
      · exact queued
    adds := fun turn among visit visited => by
      refine ⟨?_, fun found => ?_⟩
      · rw [State.queue_step_of_visit? visited, (turn.1.queue.takes visit).pending,
          State.putBack?_of_visit? visited]
        cases turn.1.queue.putsBack visit <;> rfl
      · have own : visit ∈ visits plan events := List.mem_filterMap.mpr ⟨turn, among, visited⟩
        obtain ⟨target, detail⟩ := List.exists_mem_of_ne_nil _ found
        exact (run.depth_of_details own detail).1
    total := run.length_visits_le }

/-- The first events of an infinite series. -/
def firsts (events : Nat → Event) (count : Nat) : List Event :=
  (List.range count).map events

/-- A number that never falls and has a bound stays the same from some time on. -/
theorem eventually_constant {number : Nat → Nat} (rises : ∀ time, number time ≤ number (time + 1)) {bound : Nat}
    (below : ∀ time, number time ≤ bound) : ∃ last, ∀ time, last ≤ time → number time = number last := by
  by_contra never
  push Not at never
  -- Otherwise it rises time and again, past any bound.
  have beyond (goal : Nat) : ∃ time, goal ≤ number time := by
    induction goal with
    | zero => exact ⟨0, Nat.zero_le _⟩
    | succ goal ih =>
      obtain ⟨time, reached⟩ := ih
      obtain ⟨later, after, other⟩ := never time
      have more : number time ≤ number later := monotone_nat_of_le_succ rises after
      exact ⟨later, by omega⟩
  obtain ⟨time, above⟩ := beyond (bound + 1)
  have under := below time
  omega

/-- The first events of an infinite series, with one more. -/
theorem firsts_succ (events : Nat → Event) (count : Nat) :
    firsts events (count + 1) = firsts events count ++ [events count] := by
  simp [firsts, List.range_succ]

/-- Of the visits of a crawl that goes on forever, a kind that is limited in number is not met from some time
on. -/
theorem kind_stops (plan : Plan) (events : Nat → Event) (kind : Visit → Bool) {bound : Nat}
    (below : ∀ count, (visits plan (firsts events count)).countP kind ≤ bound) :
    ∃ last, ∀ count, last ≤ count → ∀ visit,
      (History.after plan (firsts events count)).state.visit? plan (events count) = some visit →
        kind visit = false := by
  have next (count : Nat) : (visits plan (firsts events (count + 1))).countP kind =
      (visits plan (firsts events count)).countP kind +
        (((History.after plan (firsts events count)).state.visit? plan (events count)).toList).countP kind := by
    rw [firsts_succ, visits_append_singleton, List.countP_append]
  obtain ⟨last, constant⟩ := eventually_constant (fun count => (next count).symm ▸ Nat.le_add_right ..) below
  refine ⟨last, fun count late visit visited => ?_⟩
  -- A visit of the kind would be one more.
  have same := (constant (count + 1) (by omega)).trans (constant count late).symm
  rw [next count, visited, Nat.add_eq_left] at same
  simpa using same

/-- As long as the links leased are limited in number, a crawl that goes on forever fetches nothing from some time
on. -/
theorem visits_stop (plan : Plan) (events : Nat → Event) {total : Nat}
    (finite : ∀ count, (batchesIn (History.after plan (firsts events count)).log).flatten.length ≤ total) :
    ∃ last, ∀ count, last ≤ count →
      (History.after plan (firsts events count)).state.visit? plan (events count) = none := by
  -- Leased links are fetched finitely often, and without them nothing more is discovered.
  obtain ⟨first, shallow⟩ := kind_stops plan events (fun visit => visit.target.depth = 1) fun count =>
    ((schedule_run plan (firsts events count)).1.length_first_visits_le).trans
      (Nat.mul_le_mul_left _ (finite count))
  have next (count : Nat) : discovered (visits plan (firsts events (count + 1))) =
      discovered (visits plan (firsts events count)) ++
        discovered ((History.after plan (firsts events count)).state.visit? plan (events count)).toList := by
    rw [firsts_succ, visits_append_singleton, discovered, List.flatMap_append]
    rfl
  have rises : Monotone fun count => (discovered (visits plan (firsts events count))).length :=
    monotone_nat_of_le_succ fun count => by simp [next count]
  -- From then on no visit is one of a listing, which alone has detail pages.
  have constant (count : Nat) (late : first ≤ count) :
      discovered (visits plan (firsts events count)) = discovered (visits plan (firsts events first)) := by
    induction count, late using Nat.le_induction with
    | base => rfl
    | succ count late ih =>
      rw [next, ih]
      cases visited : (History.after plan (firsts events count)).state.visit? plan (events count) with
      | none => simp [discovered]
      | some visit =>
        have among : visit ∈ visits plan (firsts events (count + 1)) := by
          simp [firsts_succ, visits_append_singleton, visited]
        have deep : visit.target.depth ≠ 1 := by simpa using shallow count late visit visited
        have nothing : visit.details = [] := List.eq_nil_iff_forall_not_mem.mpr fun target found =>
          deep ((schedule_run plan (firsts events (count + 1))).1.depth_of_details among found).1
        simp [discovered, nothing]
  have few (count : Nat) : (discovered (visits plan (firsts events count))).length ≤
      (discovered (visits plan (firsts events first))).length := by
    rcases Nat.le_total count first with early | late
    · exact rises early
    · rw [constant count late]
  -- So all fetches together are limited in number too.
  obtain ⟨last, none_left⟩ := kind_stops plan events (fun _ => true) fun count => by
    have bound := (schedule_run plan (firsts events count)).1.length_visits_le
    rw [enqueued, seeded, List.length_append, List.length_map] at bound
    rw [List.countP_true]
    exact bound.trans (Nat.mul_le_mul_left _ (Nat.add_le_add (finite count) (few count)))
  refine ⟨last, fun count late => Option.eq_none_iff_forall_ne_some.mpr fun visit visited => ?_⟩
  cases none_left count late visit visited

end Harvest.Crawl

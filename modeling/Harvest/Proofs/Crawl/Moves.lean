import Harvest.Proofs.Crawl.Handling

/-! Each event moves a crawl in one of some dozen ways. Everything that is said about the targets, the links and
the report of a crawl goes back to these moves. -/

namespace Harvest.Crawl

/-- The links that the coordinator has leased at a time. -/
def Note.batch? : Note → Option (List Link)
  | leased links => some links
  | _ => none

/-- The leases of a crawl, in order. -/
def batchesIn (log : List Note) : List (List Link) :=
  log.filterMap Note.batch?

/-- How the answer of the coordinator changes a report of the given links. -/
def Report.answered (report : Report) (ids : List String) (reply : Except Service.JobError Unit) : Report :=
  { report with completed := match reply with
    | .ok () => ids.length
    | .error _ => 0 }

/-- The moves of a crawl: what an event does to it, as far as targets, links and the report go. -/
inductive Move (plan : Plan) (before : State) : Event → State → Prop
  /-- The event is about the results or the identity, or it is not waited for. -/
  | rests {event : Event} {after : State} (phase : after.phase = before.phase)
      (queue : after.queue = before.queue) (report : after.report = before.report)
      (unleased : batchesIn (before.notes plan event) = []) (unvisited : before.visit? plan event = none) :
      Move plan before event after
  | leases {links : List Link} (waits : before.phase = .leasing ∨ before.phase = .leasingMore) :
      Move plan before (.leased (.ok links)) (before.seed links).proceed
  /-- Without a first lease there is nothing to do. -/
  | fails {cause : Service.JobError} (waits : before.phase = .leasing) :
      Move plan before (.leased (.error cause))
        { before with phase := .ended (.error (.lease plan.rule.id cause)) }
  | runsDry {cause : Service.JobError} (waits : before.phase = .leasingMore) :
      Move plan before (.leased (.error cause)) before.proceed
  | checks {late : Bool} (waits : before.phase = .checking) :
      Move plan before (.clock late) { before with phase := if late then .closing false else .connecting }
  | rechecks {late : Bool} (waits : before.phase = .rechecking) :
      Move plan before (.clock late) { before with phase := if late then .closing false else .leasingMore }
  /-- A cycle takes all targets out of the queue. -/
  | begins (waits : before.phase = .connecting) :
      Move plan before (.client true)
        { before with queue := before.queue.drain.2, phase := .fetching before.queue.pending }
  | stops (waits : before.phase = .connecting) :
      Move plan before (.client false) { before with phase := .closing true }
  | visits {index : Nat} {outcome : Outcome} {moment : Moment} {unanswered : List Target} {target : Target}
      {after : State} (waits : before.phase = .fetching unanswered) (stands : unanswered[index]? = some target)
      (handled : before.handle plan target outcome moment = some after)
      (unleased : batchesIn (before.notes plan (.fetched index outcome moment)) = []) :
      Move plan before (.fetched index outcome moment) (after.afterOutcome (unanswered.eraseIdx index))
  /-- The crawl breaks off at a failure that cannot be counted. -/
  | breaks {index : Nat} {outcome : Outcome} {moment : Moment} {unanswered : List Target} {target : Target}
      (waits : before.phase = .fetching unanswered) (stands : unanswered[index]? = some target)
      (stuck : before.handle plan target outcome moment = none)
      (unleased : batchesIn (before.notes plan (.fetched index outcome moment)) = []) :
      Move plan before (.fetched index outcome moment) { before with phase := .broken unanswered }
  /-- The last flush goes on, or it is over and the completed links are reported. -/
  | stores {event : Event} {stopped : Bool} {next : Option Writing} {buffer : Buffer}
      (waits : before.phase = .closing stopped ∨ ∃ writing, before.phase = .storing stopped writing)
      (unleased : batchesIn (before.notes plan event) = []) (unvisited : before.visit? plan event = none) :
      Move plan before event (State.store stopped next { before with buffer })
  | loses {reply : Except StoreError Unit} {cause : StoreError} {stopped : Bool} {writing : Writing}
      {buffer : Buffer} (waits : before.phase = .storing stopped writing)
      (unleased : batchesIn (before.notes plan (.stored reply)) = []) :
      Move plan before (.stored reply)
        { before with buffer, phase := .ended (.error (.store plan.rule.id cause)) }
  | reports {reply : Except Service.JobError Unit} {stopped : Bool} {ids : List String}
      (waits : before.phase = .reporting stopped ids) :
      Move plan before (.reported reply)
        (State.finish stopped { before with report := before.report.answered ids reply })

/-- Nothing is leased when the last flush returns. -/
theorem batchesIn_lastFlushNotes (result : Except StoreError (Option Writing)) :
    batchesIn (lastFlushNotes result) = [] := by
  -- The note is about the flush alone.
  rcases result with cause | _ | writing <;> rfl

/-- Every event is one of the moves. -/
theorem step_move (plan : Plan) (state : State) (event : Event) :
    Move plan state event (state.step plan event) := by
  obtain ⟨phase, queue, buffer, background, identity, metrics, report⟩ := state
  cases event with
  | leased reply =>
    cases reply with
    | ok links =>
      cases phase with
      | leasing => exact .leases (.inl rfl)
      | leasingMore => exact .leases (.inr rfl)
      | _ => exact .rests rfl rfl rfl rfl rfl
    | error cause =>
      cases phase with
      | leasing => exact .fails rfl
      | leasingMore => exact .runsDry rfl
      | _ => exact .rests rfl rfl rfl rfl rfl
  | clock late =>
    cases phase with
    | checking => cases late <;> exact .checks rfl
    | rechecking => cases late <;> exact .rechecks rfl
    | _ => exact .rests rfl rfl rfl rfl rfl
  | client made =>
    cases phase with
    | connecting =>
      cases made with
      | true => exact .begins rfl
      | false => exact .stops rfl
    | _ => exact .rests rfl rfl rfl rfl rfl
  -- A target that is open is visited, or its failure cannot be counted; an index beyond them is of none.
  | fetched index outcome moment =>
    cases phase with
    | fetching unanswered =>
      cases stands : unanswered[index]? with
      | none =>
        exact .rests (by simp [State.step, stands]) (by simp [State.step, stands])
          (by simp [State.step, stands]) (by simp [State.notes, stands, batchesIn])
          (by simp [State.visit?, stands])
      | some target =>
        let state : State := ⟨.fetching unanswered, queue, buffer, background, identity, metrics, report⟩
        have unleased : batchesIn (state.notes plan (.fetched index outcome moment)) = [] := by
          simp only [state, State.notes, stands]
          cases outcome <;> rfl
        cases handled : state.handle plan target outcome moment with
        | some after =>
          rw [State.step_fetched rfl stands handled]
          exact .visits rfl stands handled unleased
        | none =>
          rw [State.step_broken rfl stands handled]
          exact .breaks rfl stands handled unleased
    | _ => exact .rests rfl rfl rfl rfl rfl
  -- Flushes in the background touch nothing but the results.
  | flushDue =>
    cases phase with
    | storing | reporting | broken | ended => exact .rests rfl rfl rfl rfl rfl
    | _ => cases background <;> exact .rests rfl rfl rfl rfl rfl
  | flushed reply => cases background <;> exact .rests rfl rfl rfl rfl rfl
  -- The last flush begins with a write, or it has nothing to write at all.
  | rested =>
    cases phase with
    | closing stopped =>
      cases background with
      | none => exact .stores (.inl rfl) (batchesIn_lastFlushNotes _) rfl
      | some writing => exact .rests rfl rfl rfl rfl rfl
    | _ => exact .rests rfl rfl rfl rfl rfl
  -- An answer to a write of the last flush brings the next one, the report or a failure.
  | stored reply =>
    cases phase with
    | storing stopped writing =>
      simp only [State.step]
      rcases written : buffer.afterWrite writing reply with ⟨left, cause | next⟩
      · exact .loses rfl (batchesIn_lastFlushNotes (buffer.afterWrite writing reply).2)
      · exact .stores (.inr ⟨writing, rfl⟩) (batchesIn_lastFlushNotes (buffer.afterWrite writing reply).2) rfl
    | _ => exact .rests rfl rfl rfl rfl rfl
  | reported reply =>
    cases phase with
    | reporting stopped ids => exact .reports rfl
    | _ => exact .rests rfl rfl rfl rfl rfl
  | refreshed pool jar => exact .rests rfl rfl rfl rfl rfl

end Harvest.Crawl

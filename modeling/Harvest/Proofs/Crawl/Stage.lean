import Harvest.Proofs.Crawl.Records

/-! How far a crawl has come: at work, in its last flush, over without a report, or over with one. -/

namespace Harvest.Crawl

variable {plan : Plan}

/-- The notes about the end of a crawl: how the last flush has returned, and the report of completed
links. -/
def Note.IsEnd : Note → Prop
  | .lastFlushed _ | .completing _ => True
  | _ => False

/-- The end of a crawl has not come yet. -/
def Unfinished (log : List Note) : Prop :=
  ∀ note ∈ log, ¬note.IsEnd

/-- Is a crawl done, be it at its end or broken off? -/
def Phase.IsDone : Phase → Prop
  | .broken _ | .ended _ => True
  | _ => False

/-- How far a crawl has come, by its log: at work, in its last flush, over without a report, or over with
one. -/
inductive Stage (state : State) (log : List Note) : Prop
  | working (flusher : state.hasFlusher = true) (unfinished : Unfinished log)
  | storing {stopped : Bool} {writing : Writing} (phase : state.phase = .storing stopped writing)
      (rests : state.background = none) (empty : state.buffer.records = []) (unfinished : Unfinished log)
  | silent (done : state.phase.IsDone) (untold : ∀ ids, .completing ids ∉ log)
  | told {before : List Note} {ids : List String}
      (phase : (∃ stopped, state.phase = .reporting stopped ids) ∨ ∃ result, state.phase = .ended result)
      (rests : state.background = none) (empty : state.buffer.records = [])
      (own : ids = state.queue.completed) (written : log = before ++ [.completing ids])
      (untold : ∀ ids, .completing ids ∉ before) (flushed : .lastFlushed (.ok ()) ∈ before)
      (unfailed : ∀ cause, .lastFlushed (.error cause) ∉ before)

/-- Only a crawl that begins to wait for the coordinator has told it something. -/
theorem completingNotes_eq_nil {before after : Phase}
    (others : ∀ stopped ids, after ≠ .reporting stopped ids) : completingNotes before after = [] := by
  -- A report is noted when the phase of reporting begins.
  cases after with
  | reporting stopped ids => exact absurd rfl (others stopped ids)
  | _ => cases before <;> rfl

/-- A crawl that begins to wait for the coordinator has told it the completed links. -/
theorem completingNotes_reporting {before : Phase} {stopped : Bool} {ids : List String}
    (others : ∀ stopped ids, before ≠ .reporting stopped ids) :
    completingNotes before (.reporting stopped ids) = [.completing ids] := by
  -- Only a crawl that waited for the coordinator before has told it already.
  cases before with
  | reporting stopped ids => exact absurd rfl (others stopped ids)
  | _ => rfl

/-- While flushes in the background may begin, the coordinator is told nothing. -/
theorem completingNotes_of_hasFlusher {before : Phase} {after : State} (flusher : after.hasFlusher = true) :
    completingNotes before after.phase = [] := by
  -- In the phase of reporting no flush in the background may begin.
  refine completingNotes_eq_nil fun stopped ids reporting => ?_
  simp [State.hasFlusher, reporting] at flusher

namespace Stage

variable {state : State} {log : List Note}

/-- A crawl that goes on without a note about its end is still at work. -/
theorem goesOn {before : Phase} {notes : List Note} (unfinished : Unfinished log)
    (others : ∀ note ∈ notes, ¬note.IsEnd) (flusher : state.hasFlusher = true) :
    Stage state (log ++ notes ++ completingNotes before state.phase) := by
  -- The new notes join the others, and there is none about a report.
  rw [completingNotes_of_hasFlusher flusher, List.append_nil]
  refine .working flusher fun note among => ?_
  exact (List.mem_append.mp among).elim (unfinished note) (others note)

/-- A crawl goes on with its last flush, reports the completed links after it, or is over without a
report. -/
theorem store (unfinished : Unfinished log) (rests : state.background = none)
    (empty : state.buffer.records = []) (stopped : Bool) (next : Option Writing)
    (silent : ∀ stopped ids, state.phase ≠ .reporting stopped ids) :
    Stage (state.store stopped next)
      (log ++ lastFlushNotes (.ok next) ++ completingNotes state.phase (state.store stopped next).phase) := by
  have untold : ∀ ids, .completing ids ∉ log := fun ids among => unfinished _ among trivial
  -- There is another write to wait for, or the flush has returned without a failure.
  cases next with
  | some writing =>
    have storing : (state.store stopped (some writing)).phase = .storing stopped writing := rfl
    rw [completingNotes_eq_nil (by simp [storing]), lastFlushNotes, List.append_nil, List.append_nil]
    exact .storing storing rests empty unfinished
  | none =>
    have untold' : ∀ ids, .completing ids ∉ log ++ lastFlushNotes (.ok none) := by
      intro ids among
      rcases List.mem_append.mp among with old | new
      · exact untold ids old
      · cases List.mem_singleton.mp new
    -- Without completed links there is nothing to report, and the crawl is over.
    by_cases nothing : state.queue.completed.isEmpty = true
    · obtain ⟨result, ended⟩ : ∃ result, (state.store stopped none).phase = .ended result := by
        simp only [State.store, State.report?, if_pos nothing]
        exact ⟨_, rfl⟩
      rw [completingNotes_eq_nil (by simp [ended]), List.append_nil]
      exact .silent (by rw [ended]; trivial) untold'
    · have reporting : (state.store stopped none).phase = .reporting stopped state.queue.completed := by
        simp only [State.store, State.report?, if_neg nothing]
      obtain ⟨queue, buffer, background, -⟩ := state.store_kept stopped none
      have written : completingNotes state.phase (state.store stopped none).phase =
          [.completing state.queue.completed] := by
        rw [reporting, completingNotes_reporting silent]
      -- The report comes right behind the note that the flush has returned.
      refine .told (.inl ⟨stopped, reporting⟩) (background.trans rests) ((congrArg _ buffer).trans empty)
        (by rw [queue]) (by rw [written]) untold' (by simp [lastFlushNotes]) fun cause among => ?_
      rcases List.mem_append.mp among with old | new
      · exact unfinished _ old trivial
      · cases List.mem_singleton.mp new

/-- A crawl that goes on with the next cycle, or to its end, may still flush in the background. -/
theorem proceed_hasFlusher (state : State) : state.proceed.hasFlusher = true := by
  -- Also when nothing is left to fetch, a flush that is due may still begin.
  unfold State.proceed State.hasFlusher
  by_cases empty : state.queue.pending.isEmpty <;> simp [empty]

/-- After an outcome a crawl may still flush in the background. -/
theorem afterOutcome_hasFlusher (unanswered : List Target) (state : State) :
    (state.afterOutcome unanswered).hasFlusher = true := by
  -- Other fetches may be under way, or the next cycle or the end of the loop comes.
  unfold State.afterOutcome
  split
  · rfl
  · split <;> rfl

/-- A crawl at work goes on, begins its last flush, or is over because no links were leased at first or a failure
cannot be counted. -/
theorem step_working (flusher : state.hasFlusher = true) (unfinished : Unfinished log) (event : Event) :
    Stage (state.step plan event)
      (log ++ state.notes plan event ++ completingNotes state.phase (state.step plan event).phase) := by
  -- Only the end of the flushes in the background leads on to the last flush.
  have unnoted : ∀ note ∈ ([] : List Note), ¬note.IsEnd := by simp
  have noted {note : Note} (other : ¬note.IsEnd) : ∀ one ∈ [note], ¬one.IsEnd := by simpa using other
  obtain ⟨phase, queue, buffer, background, identity, metrics, report⟩ := state
  cases event with
  -- Leases are waited for at the start and again when the queue has run dry.
  | leased reply =>
    cases reply with
    | ok links =>
      cases phase with
      | leasing => exact goesOn unfinished (noted fun end_ => end_) (proceed_hasFlusher _)
      | leasingMore => exact goesOn unfinished (noted fun end_ => end_) (proceed_hasFlusher _)
      | _ => exact goesOn unfinished unnoted flusher
    -- Without a first lease the crawl is over, whereas a later failure only ends the loop.
    | error cause =>
      cases phase with
      | leasing =>
        refine .silent trivial fun ids among => ?_
        exact unfinished (.completing ids) (by simpa [State.notes, State.step, completingNotes] using among)
          trivial
      | leasingMore => exact goesOn unfinished unnoted (proceed_hasFlusher _)
      | _ => exact goesOn unfinished unnoted flusher
  -- The clock decides between going on and the end of the loop, in both of which flushes may begin.
  | clock late =>
    cases phase with
    | checking => cases late <;> exact goesOn unfinished unnoted rfl
    | rechecking => cases late <;> exact goesOn unfinished unnoted rfl
    | _ => exact goesOn unfinished unnoted flusher
  | client made =>
    cases phase with
    | connecting => cases made <;> exact goesOn unfinished unnoted rfl
    | _ => exact goesOn unfinished unnoted flusher
  | fetched index outcome moment =>
    cases phase with
    | fetching unanswered =>
      cases open_ : unanswered[index]? with
      | none =>
        simp only [State.step, State.notes, open_]
        exact goesOn unfinished unnoted rfl
      | some target =>
        simp only [State.step, State.notes, open_]
        let before : State := ⟨.fetching unanswered, queue, buffer, background, identity, metrics, report⟩
        have answers : ∀ note ∈ before.answerNotes plan target moment outcome, ¬note.IsEnd := by
          cases outcome with
          | disconnected => exact unnoted
          | answered status cookies body => exact noted fun end_ => end_
        cases before.handle plan target outcome moment with
        | some after => exact goesOn unfinished answers (afterOutcome_hasFlusher ..)
        -- A crawl that breaks off reports nothing.
        | none =>
          refine .silent trivial fun ids among => ?_
          rcases List.mem_append.mp (List.append_nil _ ▸ among) with old | new
          · exact unfinished _ old trivial
          · exact answers _ new trivial
    | _ => exact goesOn unfinished unnoted flusher
  -- Flushes in the background begin and end without a change of the phase.
  | flushDue =>
    cases phase with
    | storing stopped writing => cases flusher
    | reporting stopped ids => cases flusher
    | broken unanswered => cases flusher
    | ended result => cases flusher
    | _ => cases background <;> exact goesOn unfinished unnoted flusher
  | flushed reply =>
    cases background with
    | none => exact goesOn unfinished unnoted flusher
    | some writing => exact goesOn unfinished (noted fun end_ => end_) flusher
  | rested =>
    cases phase with
    | closing stopped =>
      cases background with
      | none => exact store unfinished rfl rfl stopped _ (by simp)
      | some writing => exact goesOn unfinished unnoted flusher
    | _ => exact goesOn unfinished unnoted flusher
  -- Neither the last flush nor a report is under way yet.
  | stored reply =>
    cases phase with
    | storing stopped writing => cases flusher
    | _ => exact goesOn unfinished unnoted flusher
  | reported reply =>
    cases phase with
    | reporting stopped ids => cases flusher
    | _ => exact goesOn unfinished unnoted flusher
  | refreshed pool jar => exact goesOn unfinished unnoted flusher

/-- While the last flush is under way, only the answer of the sink counts. -/
theorem step_storing {stopped : Bool} {writing : Writing} (phase : state.phase = .storing stopped writing)
    (rests : state.background = none) (empty : state.buffer.records = []) (unfinished : Unfinished log)
    (event : Event) :
    Stage (state.step plan event)
      (log ++ state.notes plan event ++ completingNotes state.phase (state.step plan event).phase) := by
  obtain ⟨_, queue, buffer, _, identity, metrics, report⟩ := state
  obtain rfl := phase
  obtain rfl := rests
  -- The flusher is gone, so that no flush in the background comes in between.
  have waits (identity : Identity) :
      Stage ⟨.storing stopped writing, queue, buffer, none, identity, metrics, report⟩ (log ++ [] ++ []) := by
    rw [List.append_nil, List.append_nil]
    exact .storing rfl rfl empty unfinished
  cases event with
  | leased reply => cases reply <;> exact waits identity
  -- The flush fails, and the crawl ends without a report, or it goes on.
  | stored reply =>
    simp only [State.step, State.notes]
    rcases written : buffer.afterWrite writing reply with ⟨left, cause | next⟩
    · refine .silent trivial fun ids among => ?_
      simp only [lastFlushNotes, completingNotes, List.append_nil] at among
      rcases List.mem_append.mp among with old | new
      · exact unfinished (.completing ids) old trivial
      · simp at new
    · -- Without a failure no record has come back.
      have back : left.records = [] := by
        have goesOn : (buffer.afterWrite writing reply).2 = .ok next := by rw [written]
        have kept := afterWrite_records_of_ok goesOn
        rw [written] at kept
        exact kept.trans empty
      -- The answer of the sink is not the end of the crawl yet.
      have noted : Unfinished (log ++ [.wrote writing reply]) := by
        intro note among
        rcases List.mem_append.mp among with old | new
        · exact unfinished note old
        · rw [List.mem_singleton.mp new]
          exact fun end_ => end_
      let moved : State := ⟨.storing stopped writing, queue, left, none, identity, metrics, report⟩
      have onwards : Stage (moved.store stopped next) _ := store noted rfl back stopped next (by simp [moved])
      simpa only [List.append_assoc, List.singleton_append] using onwards
  | refreshed pool jar => exact waits _
  | _ => exact waits identity

/-- The notes about an event alone tell the coordinator nothing. -/
theorem notes_untold (event : Event) (ids : List String) : .completing ids ∉ state.notes plan event := by
  have lastFlush (result : Except StoreError (Option Writing)) : .completing ids ∉ lastFlushNotes result := by
    -- How the last flush has returned is another note.
    rcases result with cause | _ | writing <;> simp [lastFlushNotes]
  -- The notes are about leases, fetches, answers of the sink and how the last flush has returned.
  unfold State.notes
  split
  · split <;> simp
  · rename_i outcome moment
    split
    · split
      · cases outcome <;> simp [State.answerNotes]
      · simp
    · simp
  · split <;> simp
  · split
    · exact lastFlush _
    · simp
  · split
    · simpa using lastFlush _
    · simp
  · simp

/-- A crawl that is done stays so. -/
theorem step_done (done : state.phase.IsDone) (event : Event) : (state.step plan event).phase = state.phase := by
  obtain ⟨phase, queue, buffer, background, identity, metrics, report⟩ := state
  -- What is not waited for changes nothing, and a flush in the background leaves the phase.
  cases phase
  case broken | ended =>
    cases event with
    | leased reply => cases reply <;> rfl
    | flushed reply => cases background <;> rfl
    | _ => rfl
  all_goals exact done.elim

/-- A crawl that is over without a report stays so. -/
theorem step_silent (done : state.phase.IsDone) (untold : ∀ ids, .completing ids ∉ log) (event : Event) :
    Stage (state.step plan event)
      (log ++ state.notes plan event ++ completingNotes state.phase (state.step plan event).phase) := by
  -- A flush in the background may still be answered, but no event leads out of this phase.
  have same : (state.step plan event).phase = state.phase := step_done done event
  have unreported : ∀ stopped ids, state.phase ≠ .reporting stopped ids := by
    intro stopped ids reporting
    rw [reporting] at done
    exact done
  rw [same, completingNotes_eq_nil unreported, List.append_nil]
  refine .silent (same.symm ▸ done) fun ids among => ?_
  exact (List.mem_append.mp among).elim (untold ids) (notes_untold event ids)

/-- A crawl that has told the coordinator of the completed links writes nothing down any more, and its
queue and buffer stay as they are. -/
theorem step_told (plan : Plan) (phase : (∃ stopped ids, state.phase = .reporting stopped ids) ∨
      ∃ result, state.phase = .ended result) (rests : state.background = none) (event : Event) :
    state.notes plan event = [] ∧ completingNotes state.phase (state.step plan event).phase = [] ∧
      (state.step plan event).queue = state.queue ∧ (state.step plan event).buffer = state.buffer ∧
      (state.step plan event).background = none ∧
      ((state.step plan event).phase = state.phase ∨
        ∃ result, (state.step plan event).phase = .ended result) := by
  -- The answer of the coordinator ends the wait, and nothing else that happens is waited for.
  obtain ⟨_, queue, buffer, _, identity, metrics, report⟩ := state
  obtain rfl := rests
  -- The coordinator has yet to answer, or the crawl is over.
  rcases phase with ⟨stopped, ids, same⟩ | ⟨result, same⟩
  · obtain rfl := same
    cases event with
    | leased reply => cases reply <;> exact ⟨rfl, rfl, rfl, rfl, rfl, .inl rfl⟩
    | reported reply => exact ⟨rfl, rfl, rfl, rfl, rfl, .inr ⟨_, rfl⟩⟩
    | _ => exact ⟨rfl, rfl, rfl, rfl, rfl, .inl rfl⟩
  · obtain rfl := same
    cases event with
    | leased reply => cases reply <;> exact ⟨rfl, rfl, rfl, rfl, rfl, .inl rfl⟩
    | _ => exact ⟨rfl, rfl, rfl, rfl, rfl, .inl rfl⟩

/-- Every event takes a crawl one step on. -/
theorem step (stage : Stage state log) (event : Event) :
    Stage (state.step plan event)
      (log ++ state.notes plan event ++ completingNotes state.phase (state.step plan event).phase) := by
  cases stage with
  | working flusher unfinished => exact step_working flusher unfinished event
  | storing phase rests empty unfinished => exact step_storing phase rests empty unfinished event
  | silent done untold => exact step_silent done untold event
  | told phase rests empty own written untold flushed unfailed =>
    have ended : (∃ stopped ids, state.phase = .reporting stopped ids) ∨
        ∃ result, state.phase = .ended result :=
      phase.imp_left fun ⟨stopped, same⟩ => ⟨stopped, _, same⟩
    -- Nothing that was true when the report was made can change any more.
    obtain ⟨unnoted, uncompleted, queue, buffer, background, phase'⟩ := step_told plan ended rests event
    rw [unnoted, uncompleted, List.append_nil, List.append_nil]
    refine .told ?_ background ((congrArg _ buffer).trans empty) (by rw [queue, own]) written untold flushed
      unfailed
    rcases phase' with same | ended
    · rwa [same]
    · exact .inr ended

end Stage

end Harvest.Crawl

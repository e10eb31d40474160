import Harvest.Proofs.Crawl.Handling

/-! No event loses or doubles a record: records move on from their page to the buffer, from there to a
write, and from there to the sink. -/

namespace Harvest.Crawl

variable {plan : Plan}

/-- The write that the last flush waits for. -/
def State.lastWriting (state : State) : Option Writing :=
  match state.phase with
  | .storing _ writing => some writing
  | _ => none

/-- The records on their way to the sink. -/
def State.inFlight (state : State) : List Json :=
  waiting state.background ++ waiting state.lastWriting

/-- A link that was leased. -/
def Leased (log : List Note) (link : Link) : Prop :=
  ∃ links, .leased links ∈ log ∧ link ∈ links

/-- An address that was fetched without a failure, with a page that is a listing, a record or of no use. -/
def DealtWith (log : List Note) (url : String) : Prop :=
  ∃ status content moment, .answered url status content moment ∈ log ∧ status < 400 ∧ content ≠ .wrongPage

/-- What an event changes: links come in as they are leased, one is dealt with when its page is, and
records move on from the page to the buffer, from there to a write, and from there to the sink. -/
structure Goes (before after : State) (notes : List Note) : Prop where
  linkIds : ∀ entry ∈ after.queue.linkIds, entry ∈ before.queue.linkIds ∨
    ∃ link, Leased notes link ∧ entry = (link.url, link.id)
  processed : ∀ id ∈ after.queue.processed, id ∈ before.queue.processed ∨
    ∃ url, (url, id) ∈ before.queue.linkIds ∧ DealtWith notes url
  records : acceptedIn notes ++ after.inFlight ++ after.buffer.records =
    before.inFlight ++ before.buffer.records ++ extractedIn notes

namespace Goes

/-- A change that concerns neither links nor records. -/
theorem idle {before after : State} (queue : after.queue.linkIds = before.queue.linkIds)
    (processed : after.queue.processed = before.queue.processed) (inFlight : after.inFlight = before.inFlight)
    (records : after.buffer.records = before.buffer.records) : Goes before after [] where
  linkIds := fun entry filed => .inl (queue ▸ filed)
  processed := fun id dealt => .inl (processed ▸ dealt)
  records := by simp [acceptedIn, extractedIn, inFlight, records]

/-- Nothing changes. -/
theorem refl (state : State) : Goes state state [] :=
  idle rfl rfl rfl rfl

end Goes

/-- Going on with the last flush moves no records. -/
theorem State.store_kept (state : State) (stopped : Bool) (next : Option Writing) :
    (state.store stopped next).queue = state.queue ∧ (state.store stopped next).buffer = state.buffer ∧
      (state.store stopped next).background = state.background ∧
      (state.store stopped next).lastWriting = next := by
  -- The report, or the end without one, only looks at the queue.
  unfold store
  cases next with
  | some writing => exact ⟨rfl, rfl, rfl, rfl⟩
  | none =>
    simp only [report?]
    split <;> exact ⟨rfl, rfl, rfl, rfl⟩

/-- The notes on the last flush tell of no records. -/
theorem lastFlushNotes_records (result : Except StoreError (Option Writing)) :
    acceptedIn (lastFlushNotes result) = [] ∧ extractedIn (lastFlushNotes result) = [] := by
  -- It has failed, is over, or goes on.
  rcases result with cause | _ | writing <;> exact ⟨rfl, rfl⟩

/-- A crawl that goes on with the next cycle, or to its end, has no last flush under way. -/
theorem proceed_inFlight (state : State) (none_yet : state.lastWriting = none) :
    state.proceed.inFlight = state.inFlight := by
  -- Neither the next cycle nor the wait for the flusher is a last flush.
  have none_then : state.proceed.lastWriting = none := by
    unfold State.proceed State.lastWriting
    by_cases empty : state.queue.pending.isEmpty <;> simp [empty]
  rw [State.inFlight, State.inFlight, none_then, none_yet]
  rfl

/-- Leased links come into the queue, and nothing else changes. -/
theorem seed_goes (state : State) (links : List Link) (none_yet : state.lastWriting = none) :
    Goes state (state.seed links).proceed [.leased links] where
  linkIds := fun entry filed => (Queue.mem_linkIds_seed filed).imp_right fun ⟨link, among, same⟩ =>
    ⟨link, ⟨links, List.mem_singleton_self _, among⟩, same⟩
  processed := fun id dealt => .inl dealt
  records := by
    -- The addresses that are new to the queue are targets, which hold no records.
    have moves : (state.seed links).proceed.inFlight = state.inFlight := proceed_inFlight _ none_yet
    rw [moves]
    simp [acceptedIn, extractedIn, Note.accepted, Note.extracted, State.proceed, State.seed]

/-- The outcome of a fetch brings the record of its page into the buffer. -/
theorem fetched_goes {state after : State} {target : Target} {outcome : Outcome} {moment : Moment}
    (handles : state.handle plan target outcome moment = some after) (unanswered : List Target)
    (none_yet : state.lastWriting = none) :
    Goes state (after.afterOutcome unanswered) (state.answerNotes plan target moment outcome) := by
  have handled := handle_handled handles
  -- Going on with the next target or cycle afterwards changes the phase alone.
  have kept : (after.afterOutcome unanswered).queue = after.queue ∧
      (after.afterOutcome unanswered).buffer = after.buffer ∧
      (after.afterOutcome unanswered).background = after.background ∧
      (after.afterOutcome unanswered).lastWriting = none := by
    unfold State.afterOutcome
    split
    · exact ⟨rfl, rfl, rfl, rfl⟩
    · split <;> exact ⟨rfl, rfl, rfl, rfl⟩
  obtain ⟨queue, buffer, background, lastWriting⟩ := kept
  exact {
    linkIds := fun entry filed => .inl (by rwa [queue, handled.linkIds] at filed)
    processed := fun id dealt => by
      rw [queue] at dealt
      refine (handled.processed dealt).imp_right fun ⟨own, succeeds⟩ => ⟨target.url, own, ?_⟩
      obtain ⟨status, content, found⟩ := answered_of_succeeds succeeds
      exact ⟨status, content, moment, found⟩
    records := by
      -- A fetch is not answered by the sink.
      have none_accepted : acceptedIn (state.answerNotes plan target moment outcome) = [] := by
        cases outcome <;> rfl
      simp only [State.inFlight, none_accepted, buffer, background, lastWriting, handled.background,
        handled.records, none_yet]
      simp }

/-- A crawl that breaks off leaves all records where they are. -/
theorem broken_goes {state : State} {target : Target} {outcome : Outcome} {moment : Moment}
    (stuck : state.handle plan target outcome moment = none) (unanswered : List Target)
    (none_yet : state.lastWriting = none) :
    Goes state { state with phase := .broken unanswered } (state.answerNotes plan target moment outcome) where
  linkIds := fun entry filed => .inl filed
  processed := fun id dealt => .inl dealt
  records := by
    -- The page was no record, and there is no last flush before or after.
    have none_accepted : acceptedIn (state.answerNotes plan target moment outcome) = [] := by
      cases outcome <;> rfl
    have none_then : State.lastWriting { state with phase := .broken unanswered } = none := rfl
    rw [none_accepted, extractedIn_of_fails (handle_eq_none_iff.mp stuck).1, State.inFlight, State.inFlight, none_then,
      none_yet]
    simp

/-- A flush that begins takes the records out of the buffer. -/
theorem begin_goes (state : State) (none_yet : state.lastWriting = none) (rests : state.background = none) :
    Goes state
      { state with buffer := state.buffer.begin.2, background := state.buffer.begin.1.firstWrite } [] where
  linkIds := fun entry filed => .inl filed
  processed := fun id dealt => .inl dealt
  records := by
    -- The phase is left as it was.
    have none_then : State.lastWriting
        { state with buffer := state.buffer.begin.2, background := state.buffer.begin.1.firstWrite } = none :=
      none_yet
    simp only [State.inFlight, none_then, none_yet, rests, waiting_firstWrite]
    simp [acceptedIn, extractedIn, Buffer.begin, waiting]

/-- The answer to a flush in the background loses no records. -/
theorem flushed_goes (state : State) (writing : Writing) (reply : Except StoreError Unit)
    (none_yet : state.lastWriting = none) (flushing : state.background = some writing) :
    Goes state
      { state with
        buffer := (state.buffer.afterWrite writing reply).1
        background := (state.buffer.afterWrite writing reply).2.toOption.join }
      [.wrote writing reply] where
  linkIds := fun entry filed => .inl filed
  processed := fun id dealt => .inl dealt
  records := by
    have none_then : State.lastWriting
        { state with
          buffer := (state.buffer.afterWrite writing reply).1
          background := (state.buffer.afterWrite writing reply).2.toOption.join } = none :=
      none_yet
    -- What the sink takes, what is still to be written and what is put back are the records of the write.
    have kept := afterWrite_records state.buffer writing reply
    simp only [State.inFlight, none_then, none_yet, flushing]
    simpa [acceptedIn, extractedIn, Note.accepted, Note.extracted, waiting, List.append_assoc] using kept

/-- The last flush takes the records out of the buffer. -/
theorem lastFlush_goes (state : State) (stopped : Bool) (none_yet : state.lastWriting = none) :
    Goes state (state.lastFlush stopped) (lastFlushNotes (.ok state.buffer.begin.1.firstWrite)) := by
  obtain ⟨queue, buffer, background, lastWriting⟩ :=
    ({ state with buffer := state.buffer.begin.2 } : State).store_kept stopped state.buffer.begin.1.firstWrite
  -- If there is nothing to write, the flush is over at once, which is noted.
  obtain ⟨none_accepted, none_extracted⟩ := lastFlushNotes_records (.ok state.buffer.begin.1.firstWrite)
  exact {
    linkIds := fun entry filed => .inl (by rwa [State.lastFlush, queue] at filed)
    processed := fun id dealt => .inl (by rwa [State.lastFlush, queue] at dealt)
    records := by
      simp only [State.lastFlush, State.inFlight, buffer, background, lastWriting, none_yet,
        none_accepted, none_extracted, waiting_firstWrite]
      simp [Buffer.begin, waiting] }

/-- While the last flush waits for a write, only the records of this write are on their way. -/
theorem inFlight_of_storing {state : State} {stopped : Bool} {writing : Writing}
    (storing : state.phase = .storing stopped writing) (rests : state.background = none) :
    state.inFlight = writing.records? := by
  -- The flusher is gone, so that there is no other write.
  simp [State.inFlight, State.lastWriting, storing, rests, waiting]

/-- Going on with the last flush after a write loses no records, if the answer to the write has lost none.
-/
theorem store_goes (state : State) (stopped : Bool) (writing : Writing) (reply : Except StoreError Unit)
    (left : Buffer) (next : Option Writing) (storing : state.phase = .storing stopped writing)
    (rests : state.background = none)
    (kept : writing.taken reply ++ waiting next ++ left.records = writing.records? ++ state.buffer.records) :
    Goes state (({ state with buffer := left } : State).store stopped next)
      (.wrote writing reply :: lastFlushNotes (.ok next)) := by
  obtain ⟨queue, buffer, background, lastWriting⟩ :=
    ({ state with buffer := left } : State).store_kept stopped next
  obtain ⟨none_accepted, none_extracted⟩ := lastFlushNotes_records (.ok next)
  -- What is on its way afterwards is the next write of the flush, if there is one.
  have after_ : (({ state with buffer := left } : State).store stopped next).inFlight = waiting next := by
    rw [State.inFlight, background, lastWriting, rests]
    rfl
  have accepted : acceptedIn (.wrote writing reply :: lastFlushNotes (.ok next)) = writing.taken reply := by
    rw [acceptedIn, List.flatMap_cons, ← acceptedIn, none_accepted, List.append_nil]
    rfl
  have extracted : extractedIn (.wrote writing reply :: lastFlushNotes (.ok next)) = [] := by
    rw [extractedIn, List.flatMap_cons, ← extractedIn, none_extracted]
    rfl
  exact {
    linkIds := fun entry filed => .inl (by rwa [queue] at filed)
    processed := fun id dealt => .inl (by rwa [queue] at dealt)
    records := by
      rw [after_, buffer, inFlight_of_storing storing rests, accepted, extracted, List.append_nil]
      exact kept }

/-- A failed write of the last flush ends the crawl, and its records are back in the buffer. -/
theorem failed_goes (state : State) (stopped : Bool) (writing : Writing) (reply : Except StoreError Unit)
    (left : Buffer) (cause : StoreError) (failure : Failure)
    (storing : state.phase = .storing stopped writing) (rests : state.background = none)
    (kept : writing.taken reply ++ left.records = writing.records? ++ state.buffer.records) :
    Goes state { state with buffer := left, phase := .ended (.error failure) }
      [.wrote writing reply, .lastFlushed (.error cause)] where
  linkIds := fun entry filed => .inl filed
  processed := fun id dealt => .inl dealt
  records := by
    -- There is no next write; what was not taken is in the buffer again.
    have after_ : State.inFlight { state with buffer := left, phase := .ended (.error failure) } = [] := by
      simp [State.inFlight, State.lastWriting, rests, waiting]
    rw [after_, inFlight_of_storing storing rests]
    simpa [acceptedIn, extractedIn, Note.accepted, Note.extracted] using kept

/-- The answer to a write of the last flush loses no records. -/
theorem stored_goes (state : State) (stopped : Bool) (writing : Writing) (reply : Except StoreError Unit)
    (storing : state.phase = .storing stopped writing) (rests : state.background = none) :
    Goes state (state.step plan (.stored reply)) (state.notes plan (.stored reply)) := by
  -- The answer tells whether the flush fails, goes on with another write, or is over.
  have kept := afterWrite_records state.buffer writing reply
  simp only [State.step, State.notes, storing]
  rcases written : state.buffer.afterWrite writing reply with ⟨buffer, cause | next⟩
  · -- The write has failed, and with it the crawl.
    simp only [written, Except.toOption, Option.join_none, waiting, Option.elim_none,
      List.append_nil] at kept ⊢
    simpa only [storing, lastFlushNotes] using
      failed_goes state stopped writing reply buffer cause (.store plan.rule.id cause) storing rests kept
  · simp only [written] at kept ⊢
    simpa only [storing] using store_goes state stopped writing reply buffer next storing rests kept

/-- Every event changes links and records in the way described, unless two flushes are under way. -/
theorem step_goes (state : State) (alone : state.lastWriting.isSome → state.background = none)
    (event : Event) : Goes state (state.step plan event) (state.notes plan event) := by
  -- What a crawl does not wait for leaves it as it is and is not noted.
  obtain ⟨phase, queue, buffer, background, identity, metrics, report⟩ := state
  cases event with
  | leased reply =>
    cases reply with
    | ok links =>
      cases phase with
      | leasing => exact seed_goes _ links rfl
      | leasingMore => exact seed_goes _ links rfl
      | _ => exact .refl _
    | error cause =>
      cases phase with
      | leasing => exact .idle rfl rfl rfl rfl
      | leasingMore => exact .idle rfl rfl (proceed_inFlight _ rfl) rfl
      | _ => exact .refl _
  | clock late =>
    cases phase with
    | checking => cases late <;> exact .idle rfl rfl rfl rfl
    | rechecking => cases late <;> exact .idle rfl rfl rfl rfl
    | _ => exact .refl _
  | client made =>
    cases phase with
    | connecting => cases made <;> exact .idle rfl rfl rfl rfl
    | _ => exact .refl _
  | fetched index outcome moment =>
    cases phase with
    | fetching unanswered =>
      cases open_ : unanswered[index]? with
      | none =>
        simp only [State.step, State.notes, open_]
        exact .refl _
      | some target =>
        simp only [State.step, State.notes, open_]
        -- The crawl goes on, or breaks off at a failure that cannot be counted.
        cases handles : State.handle plan target outcome moment _ with
        | some after => exact fetched_goes handles _ rfl
        | none => exact broken_goes handles _ rfl
    | _ => exact .refl _
  | flushDue =>
    cases phase with
    | storing stopped writing => exact .refl _
    | reporting stopped ids => exact .refl _
    | broken unanswered => exact .refl _
    | ended result => exact .refl _
    | _ =>
      cases background with
      | none => exact begin_goes _ rfl rfl
      | some writing => exact .refl _
  | flushed reply =>
    cases background with
    | none => exact .refl _
    | some writing =>
      refine flushed_goes _ writing reply ?_ rfl
      -- The last flush never waits together with one in the background.
      exact Option.not_isSome_iff_eq_none.mp fun both => Option.some_ne_none writing (alone both)
  | rested =>
    cases phase with
    -- Only when the flusher has come to rest, the last flush begins.
    | closing stopped =>
      cases background with
      | none => exact lastFlush_goes _ stopped rfl
      | some writing => exact .refl _
    | _ => exact .refl _
  | stored reply =>
    cases phase with
    | storing stopped writing => exact stored_goes _ stopped writing reply rfl (alone rfl)
    | _ => exact .refl _
  | reported reply =>
    cases phase with
    | reporting stopped ids => exact .idle rfl rfl rfl rfl
    | _ => exact .refl _
  | refreshed pool jar => exact .idle rfl rfl rfl rfl

end Harvest.Crawl

import Harvest.Proofs.Crawl.Taking

/-! The outcome of a fetch changes the queue as its visit does, and adds only the record of its page. Everything that
is said about fetches goes back to this. -/

namespace Harvest.Crawl

variable {plan : Plan}

/-- What the outcome of a fetch changes: the queue as its visit does, and the buffer and the report by the record of
its page at most. -/
structure Handled (before after : State) (visit : Visit) (notes : List Note) : Prop where
  phase : after.phase = before.phase
  background : after.background = before.background
  queue : after.queue = before.queue.take visit
  records : after.buffer.records = before.buffer.records ++ extractedIn notes
  report : after.report =
    { before.report with records := before.report.records + visit.record?.toList.length }

/-- A failure is handled when its target is tried again, after changes that do not matter here. -/
theorem Handled.of_retry {before between after : State} {visit : Visit} {notes : List Note}
    (retried : between.retry visit.target = some after) (fails : visit.finding.fails = true)
    (silent : extractedIn notes = []) (phase : between.phase = before.phase)
    (background : between.background = before.background) (queue : between.queue = before.queue)
    (records : between.buffer.records = before.buffer.records) (report : between.report = before.report) :
    Handled before after visit notes := by
  obtain ⟨-, rfl⟩ := State.retry_eq_some_iff.mp retried
  -- The retry itself changes the queue and a counter.
  exact {
    phase := phase
    background := background
    queue := by rw [Queue.take_of_fails fails, ← queue]; rfl
    records := by rw [silent, List.append_nil]; exact records
    report := by rw [Visit.record?_of_fails fails]; exact report }

section Notes

variable {state : State} {target : Target} {outcome : Outcome} {moment : Moment}

/-- Nothing is extracted from a page that comes with a failure, or is not the one that was expected. -/
theorem extractedIn_of_fails (fails : (state.find plan target outcome).fails = true) :
    extractedIn (state.answerNotes plan target moment outcome) = [] := by
  -- By the answer: a failed status, or a page whose content decides both.
  cases outcome with
  | disconnected => rfl
  | answered status cookies body =>
    simp only [extractedIn, State.answerNotes, List.flatMap_cons, List.flatMap_nil, List.append_nil]
    by_cases failed : 400 ≤ status
    · unfold Note.extracted
      split
      · simp_all
      · rfl
    · simp only [State.find, if_neg failed] at fails
      cases content : Content.ofPage plan.pattern plan.listing target.url body (state.queue.parentValue target.url)
        <;> simp_all [Finding.fails, Note.extracted]

/-- What is found without a failure is noted as a page that was answered. -/
theorem answered_of_succeeds (succeeds : (state.find plan target outcome).fails = false) :
    ∃ status content, .answered target.url status content moment ∈ state.answerNotes plan target moment outcome ∧
      status < 400 ∧ content ≠ .wrongPage := by
  cases outcome with
  | disconnected => cases succeeds
  | answered status cookies body =>
    by_cases failed : 400 ≤ status
    · simp [State.find, failed, Finding.fails] at succeeds
    · refine ⟨status, _, List.mem_singleton_self _, Nat.lt_of_not_le failed, fun wrong => ?_⟩
      -- A wrong page would have been a failure.
      simp [State.find, failed, wrong, Finding.fails] at succeeds

end Notes

/-- The outcome of a fetch is handled. -/
theorem handle_handled {state after : State} {target : Target} {outcome : Outcome} {moment : Moment}
    (handled : state.handle plan target outcome moment = some after) :
    Handled state after ⟨target, state.find plan target outcome⟩
      (state.answerNotes plan target moment outcome) := by
  -- Without an answer, or with one that tells a failure, the target is tried again.
  cases outcome with
  | disconnected => exact .of_retry handled rfl rfl rfl rfl rfl rfl rfl
  | answered status cookies body =>
    by_cases failed : 400 ≤ status
    · have fails : (state.find plan target (.answered status cookies body)).fails = true := by
        rw [State.find, if_pos failed]
        rfl
      simp only [State.handle, if_pos failed] at handled
      exact .of_retry handled fails (extractedIn_of_fails fails) rfl rfl rfl rfl rfl
    · simp only [State.handle, if_neg failed] at handled
      simp only [State.find, if_neg failed, State.answerNotes]
      have fine : status < 400 := Nat.lt_of_not_le failed
      -- Of the four kinds of pages a wrong one is tried again too, and a record is kept.
      cases content : Content.ofPage plan.pattern plan.listing target.url body (state.queue.parentValue target.url)
        <;> rw [content] at handled
      case wrongPage =>
        refine .of_retry handled rfl rfl rfl rfl rfl ?_ rfl
        simp only [State.count, State.rotate, Buffer.pushDiagnostic]
        split <;> rfl
      all_goals obtain rfl := Option.some.inj handled
      case listing pages => exact ⟨rfl, rfl, rfl, by simp [extractedIn, Note.extracted, State.count], rfl⟩
      case record fields =>
        exact ⟨rfl, rfl, rfl, by simp [extractedIn, Note.extracted, fine, State.count, Buffer.pushRecord], rfl⟩
      case invalid => exact ⟨rfl, rfl, rfl, by simp [extractedIn, Note.extracted, State.count], rfl⟩

namespace Handled

variable {before after : State} {visit : Visit} {notes : List Note}

/-- The leased links stay as they are. -/
theorem linkIds (handled : Handled before after visit notes) : after.queue.linkIds = before.queue.linkIds := by
  rw [handled.queue, (before.queue.takes visit).linkIds]

/-- At most the link of the address is dealt with, and only if its page is no failure. -/
theorem processed (handled : Handled before after visit notes) {id : String} (dealt : id ∈ after.queue.processed) :
    id ∈ before.queue.processed ∨ (visit.target.url, id) ∈ before.queue.linkIds ∧ visit.finding.fails = false := by
  -- A visit that succeeds joins the link that its address is known by.
  rw [handled.queue, (before.queue.takes visit).processed] at dealt
  split at dealt
  · exact .inl dealt
  · rename_i succeeds
    exact (Queue.mem_join.mp dealt).imp_right fun own =>
      ⟨Table.mem_of_lookup own, Bool.eq_false_iff.mpr succeeds⟩

end Handled

/-- An event that makes a visit changes the queue as the visit does. -/
theorem State.queue_step_of_visit? {state : State} {event : Event} {visit : Visit}
    (visited : state.visit? plan event = some visit) :
    (state.step plan event).queue = state.queue.take visit := by
  obtain ⟨index, outcome, moment, unanswered, after, rfl, phase, stands, handled, found⟩ := eq_of_visit? visited
  have same : visit = ⟨visit.target, state.find plan visit.target outcome⟩ := by rw [← found]
  -- Whatever the crawl waits for next, the queue is that of the outcome.
  rw [same, ← (handle_handled handled).queue, step_fetched phase stands handled, afterOutcome]
  split
  · rfl
  · split <;> rfl

end Harvest.Crawl

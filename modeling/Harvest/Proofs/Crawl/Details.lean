import Harvest.Proofs.Crawl.Balance
import Harvest.Proofs.Crawl.Fates

/-! What becomes of the detail pages of a link that is reported as completed. A link counts as dealt with when
its own page is, so that the detail pages listed there may fail, be listings themselves, or be left when the
time is up; but none of them is lost in another way. -/

namespace Harvest.Crawl

/-- A crawl that has told the coordinator completed links told those of its queue, and it is over, or about to
be. -/
theorem Stage.of_completing {state : State} {log : List Note} (stage : Stage state log) {ids : List String}
    (told : .completing ids ∈ log) : ids = state.queue.completed ∧
      ((∃ stopped ids, state.phase = .reporting stopped ids) ∨ ∃ result, state.phase = .ended result) := by
  -- Of the four stages only one has a report in its log.
  cases stage with
  | working flusher unfinished => exact absurd trivial (unfinished _ told)
  | storing phase rests empty unfinished => exact absurd trivial (unfinished _ told)
  | silent phase untold => exact absurd told (untold ids)
  | told phase rests empty own written untold flushed unfailed =>
    rw [written] at told
    have last := (List.mem_append.mp told).resolve_left (untold ids)
    obtain rfl := Note.completing.inj (List.mem_singleton.mp last)
    exact ⟨own, phase.imp_left fun ⟨stopped, same⟩ => ⟨stopped, _, same⟩⟩

/-- The targets that are left when a crawl is over, or about to be, are in its queue, and it was cut short. -/
theorem State.cut_of_outstanding {state : State} {cut : Prop} (exhausted : state.Exhausted cut)
    (ending : (∃ stopped ids, state.phase = .reporting stopped ids) ∨ ∃ result, state.phase = .ended result)
    {target : Target} (stands : target ∈ state.schedule.outstanding) :
    target ∈ state.queue.pending ∧ cut := by
  -- No outcome is waited for any more, so that the target is in the queue, which then is not dry.
  have idle : state.unanswered = [] := by
    rcases ending with ⟨stopped, ids, same⟩ | ⟨result, same⟩ <;> simp [State.unanswered, same]
  have left : state.queue.pending = [] ∨ cut := by
    unfold State.Exhausted at exhausted
    rcases ending with ⟨stopped, ids, same⟩ | ⟨result, same⟩ <;> rwa [same] at exhausted
  rw [Schedule.outstanding, State.schedule, idle, List.nil_append] at stands
  refine ⟨stands, left.resolve_left fun dry => ?_⟩
  rw [dry] at stands
  cases stands

/-- What is true of a link that is reported as completed. -/
structure Completed (plan : Plan) (events : List Event) (id : String) : Prop where
  /-- Its own page was fetched, be it a listing, a record or of no use. -/
  own : ∃ link ∈ (batchesIn (History.after plan events).log).flatten, link.id = id ∧
    ∃ visit ∈ visits plan events, visit.target.url = link.url ∧ visit.finding.fails = false
  notGivenUp : id ∉ (History.after plan events).state.queue.givenUp
  /-- Each detail page that was queued from its page was taken by the pattern, was a listing too deep to be
  followed, failed too often, or is left because the crawl was cut short. -/
  details : ∀ link ∈ (batchesIn (History.after plan events).log).flatten, link.id = id →
    ∀ earlier visit later, visits plan events = earlier ++ visit :: later → visit.target.url = link.url →
      ∀ target ∈ visit.details, target.depth = maxDepth ∧
        (Fate plan.settings.giveUpAfter (earlier ++ [visit]) later target ∨
          target ∈ (History.after plan events).state.queue.pending ∧ cutShort plan events = true)

/-- A link that is reported as completed is dealt with, and what became of its detail pages is known. -/
theorem details_of_completed (plan : Plan) (events : List Event) {id : String}
    (told : id ∈ completedIn (History.after plan events).log) : Completed plan events id := by
  obtain ⟨note, noted, among⟩ := List.mem_flatMap.mp told
  cases note with
  | completing ids =>
    obtain ⟨run, exhausted⟩ := schedule_run plan events
    obtain ⟨same, ending⟩ := (History.Sound.reached plan events).stage.of_completing noted
    rw [Note.told, same, Queue.mem_completed] at among
    exact {
      own := run.known.processed id among.1
      notGivenUp := among.2
      details := fun link _ _ earlier visit later split _ target queued => by
        -- What is listed is one level below a page that is not too deep.
        have deepest : target.depth = maxDepth := by
          have first : 1 ≤ visit.target.depth := run.depth.2 visit (by simp [split])
          unfold Visit.details at queued
          split at queued
          · rename_i shallow
            obtain ⟨page, -, rfl⟩ := List.mem_map.mp queued
            simp only [maxDepth] at shallow ⊢
            omega
          · cases queued
        exact ⟨deepest, (run.fate split queued).imp_right (State.cut_of_outstanding exhausted ending)⟩ }
  | _ => cases among

/-- A link is leased, and its page lists a detail page. Then more comes. -/
def listedThen (more : List Event) : List Event :=
  [.leased (.ok [{ id := "1", url := "http://s/a", ruleId := "r", updated := 0 }]), .clock false,
    .client true, .fetched 0 (.answered 200 [] "<li><b>v</b><a href=/d>x</a></li>") ⟨0, 0, "f"⟩] ++ more

/-- The time is up before the detail page is fetched. -/
def lateDetail : List Event :=
  listedThen [.clock true, .rested]

/-- In the sample the link is reported, and its detail page is left in the queue. -/
theorem details_of_completed_late : Completed listingPlan lateDetail "1" :=
  details_of_completed listingPlan lateDetail (by decide +kernel)

/-- Are the detail pages of every link that is reported as completed taken by the pattern? -/
def DetailsExtracted (plan : Plan) (events : List Event) : Prop :=
  ∀ id ∈ completedIn (History.after plan events).log,
    ∀ link ∈ (batchesIn (History.after plan events).log).flatten, link.id = id →
      ∀ visit ∈ visits plan events, visit.target.url = link.url → ∀ target ∈ visit.details,
        ∃ other ∈ visits plan events, other.target.url = target.url ∧ other.finding.extracts = true

instance (plan : Plan) (events : List Event) : Decidable (DetailsExtracted plan events) :=
  inferInstanceAs (Decidable (∀ id ∈ completedIn (History.after plan events).log,
    ∀ link ∈ (batchesIn (History.after plan events).log).flatten, link.id = id →
      ∀ visit ∈ visits plan events, visit.target.url = link.url → ∀ target ∈ visit.details,
        ∃ other ∈ visits plan events, other.target.url = target.url ∧ other.finding.extracts = true))

/-- The detail page cannot be reached. -/
def droppedDetail : List Event :=
  listedThen [.clock false, .client true, .fetched 0 .disconnected ⟨0, 0, "f"⟩, .clock true, .rested]

/-- The detail page is a listing too. -/
def deepDetail : List Event :=
  listedThen [.clock false, .client true,
    .fetched 0 (.answered 200 [] "<li><a href=/e>x</a></li>") ⟨0, 0, "f"⟩, .clock true, .rested]

/-- In each of the samples the link is reported, and its detail page is never taken by the pattern: it is
given up, left in the queue, or a listing itself. -/
theorem details_left : ¬DetailsExtracted listingPlan droppedDetail ∧
    ¬DetailsExtracted listingPlan lateDetail ∧ ¬DetailsExtracted listingPlan deepDetail := by
  decide +kernel

end Harvest.Crawl

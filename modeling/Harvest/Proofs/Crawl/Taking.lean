import Harvest.Proofs.Crawl.Visits

/-! What a visit does to the queue depends on the queue before and on the visit alone. -/

namespace Harvest.Crawl

namespace Queue

/-- The queue after a visit. -/
def take (queue : Queue) (visit : Visit) : Queue :=
  match visit.finding with
  | .failed | .page .wrongPage => (queue.retried visit.target).2
  | .page (.listing pages) =>
    (State.discoverAll visit.target.depth pages queue).2.markProcessed visit.target.url
  | .page (.record _) | .page .invalid =>
    (queue.dropParentValue visit.target.url).markProcessed visit.target.url

/-- A failure counts the address of its target once more. -/
theorem take_of_fails {queue : Queue} {visit : Visit} (fails : visit.finding.fails = true) :
    queue.take visit = (queue.retried visit.target).2 := by
  -- There is no reply, or a wrong page.
  obtain ⟨target, finding⟩ := visit
  cases finding with
  | failed => rfl
  | page content =>
    cases content with
    | wrongPage => rfl
    | _ => cases fails

/-- Is the target of a visit put back? A failure does so, unless its address was put back too often. -/
def putsBack (queue : Queue) (visit : Visit) : Bool :=
  visit.finding.fails && queue.attemptsAt visit.target.url < queue.giveUpAfter

/-- Adds the link of an address to others, once. -/
def join (queue : Queue) (url : String) (ids : List String) : List String :=
  match queue.linkIds.lookup url with
  | some id => addGivenUp id ids
  | none => ids

variable {queue : Queue}

/-- Only the link of the address comes in. -/
theorem mem_join {url id : String} {ids : List String} :
    id ∈ queue.join url ids ↔ id ∈ ids ∨ queue.linkIds.lookup url = some id := by
  -- An address may have no link, or one that is there already.
  unfold join
  split
  · rename_i own found
    rw [found, Option.some_inj]
    unfold addGivenUp
    split
    · rename_i there
      exact ⟨.inl, fun either => either.elim (fun among => among)
        fun same => same ▸ List.contains_iff_mem.mp there⟩
    · rw [List.mem_append, List.mem_singleton, eq_comm (a := own)]
  · simp [*]

/-- No link comes in twice. -/
theorem nodup_join {url : String} {ids : List String} (once : ids.Nodup) : (queue.join url ids).Nodup := by
  -- A link is added only if it is not there.
  unfold join addGivenUp
  split
  · split
    · exact once
    · rename_i own _ absent
      rw [List.contains_iff_mem] at absent
      exact List.nodup_append.mpr ⟨once, by simp, fun id among other last same =>
        absent (List.mem_singleton.mp last ▸ same ▸ among)⟩
  · exact once

/-- What a visit does to a queue: the leased links stay, the failures of its address are counted, what it
finds and what it puts back is added, and its link is dealt with or given up. -/
structure Takes (before after : Queue) (visit : Visit) : Prop where
  linkIds : after.linkIds = before.linkIds
  giveUpAfter : after.giveUpAfter = before.giveUpAfter
  attempts : ∀ url, after.attemptsAt url =
    before.attemptsAt url + if visit.finding.fails ∧ url = visit.target.url then 1 else 0
  pending : after.pending =
    before.pending ++ visit.details ++ if before.putsBack visit then [visit.target] else []
  processed : after.processed =
    if visit.finding.fails then before.processed else before.join visit.target.url before.processed
  givenUp : after.givenUp =
    if visit.finding.fails ∧ ¬before.putsBack visit then before.join visit.target.url before.givenUp
    else before.givenUp

/-- Putting a target back, or giving it up, is what a failure does. -/
theorem retried_takes (visit : Visit) (fails : visit.finding.fails = true) :
    Takes queue (queue.retried visit.target).2 visit := by
  have unlisted : visit.details = [] := Visit.details_of_fails fails
  have attempts (url : String) :
      ((queue.attempts.put visit.target.url (queue.attemptsAt visit.target.url + 1)).lookup url).getD 0 =
        queue.attemptsAt url + if visit.finding.fails ∧ url = visit.target.url then 1 else 0 := by
    rw [Table.lookup_put]
    by_cases own : url = visit.target.url
    · simp [own, fails]
    · simp [own, attemptsAt]
  -- One failure more may be one too many.
  by_cases again : queue.attemptsAt visit.target.url < queue.giveUpAfter
  · have back : queue.putsBack visit = true := by simp [putsBack, fails, again]
    have few : ¬queue.giveUpAfter < queue.attemptsAt visit.target.url + 1 := by omega
    simp only [retried, if_neg few]
    exact {
      linkIds := rfl
      giveUpAfter := rfl
      attempts := attempts
      pending := by simp [unlisted, back]
      processed := by simp [fails]
      givenUp := by simp [back] }
  · have left : queue.putsBack visit = false := by simp [putsBack, again]
    have many : queue.giveUpAfter < queue.attemptsAt visit.target.url + 1 := by omega
    simp only [retried, if_pos many]
    exact {
      linkIds := rfl
      giveUpAfter := rfl
      attempts := attempts
      pending := by simp [unlisted, left]
      processed := by simp [fails]
      givenUp := by rw [if_pos ⟨fails, by simp [left]⟩]; rfl }

/-- Marking an address adds its link to those dealt with. -/
theorem markProcessed_eq (url : String) :
    queue.markProcessed url = { queue with processed := queue.join url queue.processed } := by
  -- An address may have no link, or one that is marked already.
  unfold markProcessed join addGivenUp
  cases queue.linkIds.lookup url with
  | none => rfl
  | some id =>
    by_cases there : queue.processed.contains id = true
    · simp only [if_pos there]
    · simp only [if_neg there]

/-- Adding detail pages changes the targets and the values that they carry. -/
theorem discoverAll_eq (depth : Nat) (pages : List DetailPage) (queue : Queue) :
    ∃ parentValues, (State.discoverAll depth pages queue).2 = { queue with
      parentValues
      pending := queue.pending ++
        if depth < maxDepth then pages.map fun page => ⟨page.url, depth + 1⟩ else [] } := by
  -- On a page that is deep enough none of them is added.
  induction pages generalizing queue with
  | nil => exact ⟨queue.parentValues, by simp [State.discoverAll]⟩
  | cons page rest ih =>
    obtain ⟨parentValues, others⟩ := ih (queue.discover page depth).2
    refine ⟨parentValues, ?_⟩
    simp only [State.discoverAll, others]
    by_cases shallow : depth < maxDepth
    · have follows : ¬maxDepth < depth + 1 := by omega
      simp [discover, follows, shallow]
    · have stays : maxDepth < depth + 1 := by omega
      simp [discover, stays, shallow]

/-- Marking the address, with the detail pages added, is what a page does that is no failure. -/
theorem markProcessed_takes {visit : Visit} (succeeds : visit.finding.fails = false)
    {parentValues : Table String} {pending : List Target} (added : pending = queue.pending ++ visit.details) :
    Takes queue ({ queue with parentValues, pending }.markProcessed visit.target.url) visit := by
  -- Without a failure nothing is put back or given up.
  have left : queue.putsBack visit = false := by simp [putsBack, succeeds]
  rw [markProcessed_eq]
  exact {
    linkIds := rfl
    giveUpAfter := rfl
    attempts := fun url => by simp [succeeds, attemptsAt]
    pending := by simp [added, left]
    processed := by rw [if_neg (by simp [succeeds])]; rfl
    givenUp := by simp [succeeds] }

/-- A visit does to a queue what it should. -/
theorem takes (queue : Queue) (visit : Visit) : Takes queue (queue.take visit) visit := by
  -- A failure puts the target back or gives it up, and every other page marks its address.
  obtain ⟨target, finding⟩ := visit
  cases finding with
  | failed => exact retried_takes _ rfl
  | page content =>
    cases content with
    | listing pages =>
      have succeeds : (Visit.mk target (.page (.listing pages))).finding.fails = false := rfl
      obtain ⟨parentValues, found⟩ := discoverAll_eq target.depth pages queue
      simp only [take, found]
      exact markProcessed_takes succeeds rfl
    | record fields => exact markProcessed_takes rfl (by simp [Visit.details, Finding.listed])
    | wrongPage => exact retried_takes _ rfl
    | invalid => exact markProcessed_takes rfl (by simp [Visit.details, Finding.listed])

end Queue

/-- A retry counts the address of its target, for which there has to be a word. -/
theorem State.retry_eq_some_iff {state after : State} {target : Target} :
    state.retry target = some after ↔ state.queue.attemptsAt target.url + 1 < Word.halfBound ∧
      after = { state with queue := (state.queue.retried target).2 }.count
        (if (state.queue.retried target).1 then .requeued else .gaveUp) := by
  -- The counter is the one thing that a retry can fail at.
  constructor
  · intro retried
    obtain ⟨result, counted, rfl⟩ := Option.map_eq_some_iff.mp retried
    obtain ⟨small, rfl⟩ := Queue.requeue_eq_some_iff.mp counted
    exact ⟨small, rfl⟩
  · rintro ⟨small, rfl⟩
    have counted := Queue.requeue_eq_some_iff.mpr ⟨small, rfl⟩
    simp only [retry, counted]
    rfl

/-- The outcome of a fetch cannot be dealt with exactly if it is a failure and the count of its address has reached the
last word. -/
theorem handle_eq_none_iff {plan : Plan} {state : State} {target : Target} {outcome : Outcome} {moment : Moment} :
    state.handle plan target outcome moment = none ↔
      (state.find plan target outcome).fails = true ∧
        Word.halfBound ≤ state.queue.attemptsAt target.url + 1 := by
  have stuck (state : State) : state.retry target = none ↔
      Word.halfBound ≤ state.queue.attemptsAt target.url + 1 := by
    rw [← Nat.not_lt]
    refine ⟨fun nothing small => ?_, fun large => Option.eq_none_iff_forall_ne_some.mpr fun after retried =>
      large (State.retry_eq_some_iff.mp retried).1⟩
    rw [State.retry_eq_some_iff.mpr ⟨small, rfl⟩] at nothing
    cases nothing
  cases outcome with
  | disconnected => exact (stuck _).trans (and_iff_right rfl).symm
  | answered status cookies body =>
    by_cases failed : 400 ≤ status
    · simp only [State.handle, State.find, if_pos failed]
      exact (stuck _).trans (and_iff_right rfl).symm
    · simp only [State.handle, State.find, if_neg failed]
      -- Only a wrong page is tried again.
      cases Content.ofPage plan.pattern plan.listing target.url body (state.queue.parentValue target.url)
      case wrongPage => exact (stuck _).trans (and_iff_right rfl).symm
      all_goals simp [State.handlePage, Finding.fails]

/-- An address whose visit fails has been counted. -/
theorem State.requeue_of_visit? {plan : Plan} {state : State} {event : Event} {visit : Visit}
    (visited : state.visit? plan event = some visit) (fails : visit.finding.fails = true) :
    state.queue.requeue visit.target = some (state.queue.retried visit.target) := by
  obtain ⟨index, outcome, moment, unanswered, after, rfl, phase, stands, handled, found⟩ := eq_of_visit? visited
  refine Queue.requeue_eq_some_iff.mpr ⟨?_, rfl⟩
  -- Otherwise the visit would not have been made.
  by_contra large
  rw [found] at fails
  rw [handle_eq_none_iff.mpr ⟨fails, Nat.le_of_not_lt large⟩] at handled
  cases handled

end Harvest.Crawl

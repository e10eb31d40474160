import Harvest.Proofs.Crawl.Stage

/-! Results come before their completion: when the coordinator is told the completed links, the last flush
has returned and the sink has every record that was extracted, and each of these links was leased and its
page dealt with. -/

namespace Harvest.Crawl

variable {plan : Plan}

/-- What holds of a crawl and its log at all times. -/
structure History.Sound (history : History) : Prop where
  linkIds : ∀ entry ∈ history.state.queue.linkIds,
    ∃ link, Leased history.log link ∧ entry = (link.url, link.id)
  processed : ∀ id ∈ history.state.queue.processed,
    ∃ link, Leased history.log link ∧ link.id = id ∧ DealtWith history.log link.url
  records : acceptedIn history.log ++ history.state.inFlight ++ history.state.buffer.records =
    extractedIn history.log
  stage : Stage history.state history.log

/-- What is leased stays so in a longer log. -/
theorem Leased.mono {log longer : List Note} {link : Link} (leased : Leased log link) (keeps : log ⊆ longer) :
    Leased longer link :=
  -- The note about the lease is in the longer log too.
  leased.imp fun _ ⟨noted, among⟩ => ⟨keeps noted, among⟩

/-- What is dealt with stays so in a longer log. -/
theorem DealtWith.mono {log longer : List Note} {url : String} (dealt : DealtWith log url)
    (keeps : log ⊆ longer) : DealtWith longer url := by
  obtain ⟨status, content, moment, noted, fine, useful⟩ := dealt
  exact ⟨status, content, moment, keeps noted, fine, useful⟩

/-- The report of completed links tells of no records. -/
theorem completingNotes_records (before after : Phase) :
    acceptedIn (completingNotes before after) = [] ∧ extractedIn (completingNotes before after) = [] := by
  -- It tells identifiers only, or there is none.
  unfold completingNotes
  split <;> exact ⟨rfl, rfl⟩

namespace History.Sound

variable {history : History}

/-- Two flushes are never under way at once. -/
theorem alone (sound : history.Sound) (storing : history.state.lastWriting.isSome) :
    history.state.background = none := by
  -- The last flush begins only when none in the background is left.
  cases sound.stage with
  | working flusher _ =>
    unfold State.lastWriting at storing
    split at storing
    · rename_i phase
      simp [State.hasFlusher, phase] at flusher
    · cases storing
  | storing _ rests => exact rests
  | silent done =>
    unfold State.lastWriting at storing
    split at storing
    · rename_i phase
      rw [phase] at done
      exact done.elim
    · cases storing
  | told _ rests => exact rests

/-- Every event keeps a crawl and its log sound. -/
theorem step (sound : history.Sound) (event : Event) : (history.step plan event).Sound := by
  -- What was noted before stays noted, and what changes is noted with the event.
  have goes : Goes history.state (history.state.step plan event) (history.state.notes plan event) :=
    step_goes history.state sound.alone event
  have old : history.log ⊆ (history.step plan event).log := by
    simp [History.step, List.append_assoc]
  have new : history.state.notes plan event ⊆ (history.step plan event).log := by
    intro note among
    simp [History.step, among]
  exact {
    linkIds := fun entry filed => by
      rcases goes.linkIds entry filed with before | ⟨link, leased, same⟩
      · obtain ⟨link, leased, same⟩ := sound.linkIds entry before
        exact ⟨link, leased.mono old, same⟩
      · exact ⟨link, leased.mono new, same⟩
    processed := fun id dealt => by
      rcases goes.processed id dealt with before | ⟨url, own, page⟩
      · obtain ⟨link, leased, same, page⟩ := sound.processed id before
        exact ⟨link, leased.mono old, same, page.mono old⟩
      · obtain ⟨link, leased, same⟩ := sound.linkIds _ own
        obtain ⟨rfl, rfl⟩ := Prod.mk.inj same
        exact ⟨link, leased.mono old, rfl, page.mono new⟩
    records := by
      -- What has moved with the event joins what had moved before.
      have moved := goes.records
      have before := sound.records
      obtain ⟨accepted, extracted⟩ :=
        completingNotes_records history.state.phase (history.state.step plan event).phase
      simp only [acceptedIn, extractedIn] at moved before accepted extracted
      simp only [History.step, acceptedIn, extractedIn, List.flatMap_append, accepted, extracted,
        List.append_nil]
      rw [← before]
      simp only [List.append_assoc] at moved ⊢
      rw [moved]
    stage := sound.stage.step event }

/-- A crawl and its log are sound after every series of events. -/
theorem reached (plan : Plan) (events : List Event) : (History.after plan events).Sound := by
  -- It is sound before the first event, and every event keeps it so.
  induction events using List.reverseRecOn with
  | nil =>
    exact {
      linkIds := by simp [History.after, State.start]
      processed := by simp [History.after, State.start]
      records := rfl
      stage := .working rfl (by simp [Unfinished, History.after]) }
  | append_singleton events event ih =>
    rw [History.after_append_singleton]
    exact ih.step event

end History.Sound

/-- What is true when the coordinator is told completed links: `before` is the log until then, `rest`
comes after. -/
structure ToldAfterStoring (state : State) (before : List Note) (ids : List String) (rest : List Note) :
    Prop where
  /-- It is told once. -/
  once : ∀ others, .completing others ∉ before ++ rest
  /-- The last flush has returned, and no last flush fails. -/
  flushed : .lastFlushed (.ok ()) ∈ before ∧ ∀ cause, .lastFlushed (.error cause) ∉ before ++ rest
  /-- The links were leased, and their addresses fetched with a page that is a listing, a record or of no
  use. -/
  dealtWith : ∀ id ∈ ids, ∃ link, Leased before link ∧ link.id = id ∧ DealtWith before link.url
  /-- None of them was given up. -/
  notGivenUp : ∀ id ∈ ids, id ∉ state.queue.givenUp
  /-- The sink has accepted every record that is ever extracted, each once and in order. -/
  accepted : acceptedIn before = extractedIn before ∧ extractedIn rest = [] ∧ acceptedIn rest = []

/-- Whatever happens around a crawl, the coordinator is told completed links only after their results are
stored. -/
theorem completing_after_storing (plan : Plan) (events : List Event) {before rest : List Note}
    {ids : List String} (told : (History.after plan events).log = before ++ .completing ids :: rest) :
    ToldAfterStoring (History.after plan events).state before ids rest := by
  -- Of the four stages only one has a report in its log.
  have sound := History.Sound.reached plan events
  generalize History.after plan events = history at told sound
  cases sound.stage with
  | working _ unfinished => exact absurd trivial (unfinished (.completing ids) (by simp [told]))
  | storing _ _ _ unfinished => exact absurd trivial (unfinished (.completing ids) (by simp [told]))
  | silent _ untold => exact absurd (by simp [told]) (untold ids)
  | @told before' ids' phase rests empty own written untold flushed unfailed =>
    -- The report is the last entry of the log, and there is no other one.
    obtain ⟨rfl, rfl, rfl⟩ : before = before' ∧ ids = ids' ∧ rest = [] := by
      rw [written] at told
      rcases List.eq_nil_or_concat rest with rfl | ⟨more, last, rfl⟩
      · obtain ⟨same, report⟩ := List.append_inj' told rfl
        cases report
        exact ⟨same.symm, rfl, rfl⟩
      · rw [List.concat_eq_append, ← List.cons_append, ← List.append_assoc] at told
        obtain ⟨same, -⟩ := List.append_inj' told rfl
        exact absurd (by simp [same]) (untold ids)
    have noted {note : Note} (among : note ∈ history.log) (other : note ≠ .completing ids) :
        note ∈ before := by
      rw [written] at among
      exact (List.mem_append.mp among).resolve_right fun last => other (List.mem_singleton.mp last)
    have none_waits : history.state.lastWriting = none := by
      rcases phase with ⟨stopped, reporting⟩ | ⟨result, ended⟩
      · simp [State.lastWriting, reporting]
      · simp [State.lastWriting, ended]
    -- No record waits in the buffer or is on its way any more.
    have all_accepted : acceptedIn before = extractedIn before := by
      have records := sound.records
      rw [written, State.inFlight, none_waits, rests, empty] at records
      simpa [acceptedIn, extractedIn, waiting, Note.accepted, Note.extracted] using records
    exact {
      once := by simpa using untold
      flushed := ⟨flushed, by simpa using unfailed⟩
      dealtWith := fun id among => by
        rw [own] at among
        obtain ⟨link, ⟨links, leased, member⟩, same, status, content, moment, answered, page⟩ :=
          sound.processed id (Queue.mem_completed.mp among).1
        exact ⟨link, ⟨links, noted leased (by simp), member⟩, same, status, content, moment,
          noted answered (by simp), page⟩
      notGivenUp := fun id among => by
        rw [own] at among
        exact (Queue.mem_completed.mp among).2
      accepted := ⟨all_accepted, rfl, rfl⟩ }

/-- A plan for pages with one paragraph. -/
def samplePlan : Plan :=
  let source := "\x7b\"t\": \x7b\"pattern\": \"p\", \"value\": \"text\"\x7d\x7d"
  let rule : Rule := { id := "r", pattern := source, updated := 0 }
  { rule, pattern := (Pattern.parse rule.pattern).toOption.getD (.group []), listing := none, worker := "w"
    settings := {}, proxy := {} }

/-- A link is leased, its page is fetched just before the time is up, and the record is stored at the
second try. -/
def sampleEvents : List Event :=
  [.leased (.ok [{ id := "1", url := "u", ruleId := "r", updated := 0 }]), .clock false, .client true,
    .fetched 0 (.answered 200 [] "<p>x</p>") ⟨0, 0, "f"⟩, .flushDue, .clock true,
    .flushed (.error (.backend "down")), .rested, .stored (.ok ())]

/-- In the sample the link is reported, with one record stored before. -/
theorem completing_after_storing_sample :
    ∃ before, (History.after samplePlan sampleEvents).log = before ++ .completing ["1"] :: [] ∧
      (acceptedIn before).length = 1 ∧
      ToldAfterStoring (History.after samplePlan sampleEvents).state before ["1"] [] := by
  -- The sample is run for its last note, and the records are counted in what comes before it.
  have last : ((History.after samplePlan sampleEvents).log.getLast?.bind fun
      | .completing ids => some ids
      | _ => none) = some ["1"] := by
    decide +kernel
  have stored : (acceptedIn (History.after samplePlan sampleEvents).log.dropLast).length = 1 := by
    decide +kernel
  obtain ⟨note, ending, same⟩ := Option.bind_eq_some_iff.mp last
  have told : (History.after samplePlan sampleEvents).log =
      (History.after samplePlan sampleEvents).log.dropLast ++ .completing ["1"] :: [] := by
    obtain ⟨before, log⟩ := List.getLast?_eq_some_iff.mp ending
    cases note with
    | completing ids =>
      cases same
      rw [log, List.dropLast_concat]
    | _ => cases same
  exact ⟨_, told, stored, completing_after_storing samplePlan sampleEvents told⟩

end Harvest.Crawl

import Harvest.Proofs.Crawl.Balance
import Harvest.Proofs.Crawl.Once

/-! With which value a page is read. Values are filed under addresses: what is filed last under the address of a
page counts, be it by the listing entry that led to the page, by another one, or by a visit that is done with the
address. -/

namespace Harvest.Crawl

/-- The value that visits leave with an address, if others came before and left a value there. -/
def filedAfter (giveUpAfter : Nat) (url : String) : List Visit → String → List Visit → String
  | _, value, [] => value
  | earlier, value, visit :: later =>
    filedAfter giveUpAfter url (earlier ++ [visit])
      ((visit.filing? (visit.returns giveUpAfter earlier) url).getD value) later

/-- The value that the visits of a crawl leave with an address. -/
def filedValue (giveUpAfter : Nat) (visits : List Visit) (url : String) : String :=
  filedAfter giveUpAfter url [] "" visits

/-- With one visit more, what that one files counts. -/
theorem filedValue_append_singleton (giveUpAfter : Nat) (visits : List Visit) (visit : Visit) (url : String) :
    filedValue giveUpAfter (visits ++ [visit]) url =
      (visit.filing? (visit.returns giveUpAfter visits) url).getD (filedValue giveUpAfter visits url) := by
  have goesOn (earlier : List Visit) (value : String) :
      filedAfter giveUpAfter url earlier value (visits ++ [visit]) =
        (visit.filing? (visit.returns giveUpAfter (earlier ++ visits)) url).getD
          (filedAfter giveUpAfter url earlier value visits) := by
    -- The visits in front are taken one by one.
    induction visits generalizing earlier value with
    | nil => simp [filedAfter]
    | cons first rest ih => simp [filedAfter, ih]
  exact goesOn [] ""

/-- Do later visits file nothing under an address? -/
def Unfiled (giveUpAfter : Nat) (url : String) (earlier later : List Visit) : Prop :=
  ∀ front visit back, later = front ++ visit :: back →
    visit.filing? (visit.returns giveUpAfter (earlier ++ front)) url = none

/-- If later visits file nothing under an address, its value stays. -/
theorem filedValue_append_of_unfiled {giveUpAfter : Nat} {url : String} {earlier later : List Visit}
    (unfiled : Unfiled giveUpAfter url earlier later) :
    filedValue giveUpAfter (earlier ++ later) url = filedValue giveUpAfter earlier url := by
  -- By the later visits from the end, since what is filed last counts.
  induction later using List.reverseRecOn with
  | nil => rw [List.append_nil]
  | append_singleton later visit ih =>
    rw [← List.append_assoc, filedValue_append_singleton, unfiled later visit [] rfl, Option.getD_none]
    exact ih fun front other back split => unfiled front other (back ++ [visit]) (by simp [split])

/-- The value that a visit files is there as long as later visits file nothing. -/
theorem filedValue_of_filing {giveUpAfter : Nat} {url value : String} {earlier later : List Visit} {visit : Visit}
    (filed : visit.filing? (visit.returns giveUpAfter earlier) url = some value)
    (unfiled : Unfiled giveUpAfter url (earlier ++ [visit]) later) :
    filedValue giveUpAfter (earlier ++ [visit] ++ later) url = value := by
  rw [filedValue_append_of_unfiled unfiled, filedValue_append_singleton, filed, Option.getD_some]

/-- If each visit of an address is put back, the last listing entry with the address decides. -/
theorem filedValue_of_returns {giveUpAfter : Nat} {url : String} {visits : List Visit}
    (returns : ∀ front visit back, visits = front ++ visit :: back → visit.target.url = url →
      visit.returns giveUpAfter front = true) :
    filedValue giveUpAfter visits url = (valuesAt (named visits) url).getLast?.getD "" := by
  induction visits using List.reverseRecOn with
  | nil => rfl
  | append_singleton visits visit ih =>
    have before := ih fun front other back split => returns front other (back ++ [visit]) (by simp [split])
    -- The last visit is not done with the address, so that it files the values of its page only.
    have filed : visit.filing? (visit.returns giveUpAfter visits) url = (valuesAt visit.named url).getLast? := by
      rw [Visit.filing?, if_neg, Option.or_none]
      rintro ⟨own, -, left⟩
      rw [returns visits visit [] rfl own.symm] at left
      cases left
    rw [filedValue_append_singleton, filed, before]
    simp only [named, valuesAt, List.flatMap_append, List.flatMap_singleton, List.filter_append, List.map_append,
      List.getLast?_append]
    cases (valuesAt visit.named url).getLast? <;> simp_all [valuesAt]

/-- A queue has the values that the visits so far have filed. -/
theorem Schedule.Run.parentValue_eq_filed {giveUpAfter : Nat} {batches : List (List Link)} {visits : List Visit}
    {schedule : Schedule} (run : Run giveUpAfter batches visits schedule) (url : String) :
    schedule.queue.parentValue url = filedValue giveUpAfter visits url := by
  -- Only a visit files values, and seeding and draining do not.
  induction run with
  | start => rfl
  | seed run dry links ih => exact ih
  | drain run ih => exact ih
  | visit run ih => rw [Queue.parentValue_take, run.putsBack, ih, filedValue_append_singleton]

/-- As many values are given for an address as detail pages with the address are queued. -/
theorem length_valuesAt (visits : List Visit) (url : String) :
    (valuesAt (named visits) url).length = targetsAt (discovered visits) url := by
  -- Each detail page is queued under its address once and gives one value.
  have urls := congrArg (List.countP fun other => other = url) (discovered_urls visits)
  simp only [List.countP_map] at urls
  rw [valuesAt, List.length_map, ← List.countP_eq_length_filter, targetsAt]
  exact urls.symm

/-- If the address of a detail page is queued once in the end, then at each time at which it has been queued, the
value of that page is the only one given for it. -/
theorem valuesAt_of_single {batches batches' : List (List Link)} {visits visits' : List Visit}
    (first : batches <+: batches') (second : visits <+: visits') {page : DetailPage} (among : page ∈ named visits')
    (single : targetsAt (enqueued batches' visits') page.url = 1)
    {target : Target} (queued : target ∈ enqueued batches visits) (own : target.url = page.url) :
    targetsAt (enqueued batches visits) page.url = 1 ∧ valuesAt (named visits) page.url = [page.parentValue] := by
  have there : page.parentValue ∈ valuesAt (named visits') page.url :=
    List.mem_map_of_mem (List.mem_filter.mpr ⟨among, by simp⟩)
  have fewer : (valuesAt (named visits) page.url).Sublist (valuesAt (named visits') page.url) := by
    obtain ⟨more, rfl⟩ := second
    simp only [valuesAt, named, List.flatMap_append, List.filter_append, List.map_append]
    exact List.sublist_append_left ..
  -- The page takes the only place, so that no leased link has the address, neither before nor in the end.
  have seeds : targetsAt (seeded batches) page.url ≤ targetsAt (seeded batches') page.url := by
    obtain ⟨others, rfl⟩ := first
    simp [seeded, targetsAt]
  have some_queued : 0 < targetsAt (enqueued batches visits) page.url :=
    List.countP_pos_iff.mpr ⟨target, queued, by simp [own]⟩
  have length := List.length_pos_of_mem there
  have shorter := fewer.length_le
  rw [targetsAt, enqueued, List.countP_append, ← targetsAt, ← targetsAt, ← length_valuesAt] at single some_queued ⊢
  refine ⟨by omega, ?_⟩
  have all : valuesAt (named visits') page.url = [page.parentValue] := by
    obtain ⟨value, one⟩ := List.length_eq_one_iff.mp (by omega : (valuesAt (named visits') page.url).length = 1)
    rw [one] at there ⊢
    rw [List.mem_singleton.mp there]
  exact (fewer.eq_of_length (by omega)).trans all

/-- If an address has failed at each of its visits, and not too often, each of them has put its target back. -/
theorem returns_of_fetchesAt_eq {giveUpAfter : Nat} {visits : List Visit} {url : String}
    (failed : fetchesAt visits url = failuresAt visits url) (few : failuresAt visits url ≤ giveUpAfter)
    {front back : List Visit} {visit : Visit} (split : visits = front ++ visit :: back)
    (own : visit.target.url = url) : visit.returns giveUpAfter front = true := by
  obtain rfl := own
  have fetches : fetchesAt visits visit.target.url =
      fetchesAt front visit.target.url + 1 + fetchesAt back visit.target.url := by
    rw [split, List.append_cons, fetchesAt_append, fetchesAt_append]
    simp [fetchesAt, targetsAt]
  have failures : failuresAt visits visit.target.url =
      failuresAt front visit.target.url + (if visit.finding.fails then 1 else 0) +
        failuresAt back visit.target.url := by
    rw [split, List.append_cons, failuresAt, List.countP_append, ← failuresAt, ← failuresAt,
      failuresAt_append_singleton]
    simp
  -- Before and after the visit, too, there are not more failures than visits.
  have before := failuresAt_le front visit.target.url
  have after := failuresAt_le back visit.target.url
  cases fails : visit.finding.fails with
  | false =>
    rw [fails] at failures
    simp only [Bool.false_eq_true, if_false] at failures
    omega
  | true =>
    rw [fails, if_pos rfl] at failures
    rw [Visit.returns, fails, Bool.true_and, decide_eq_true_iff]
    omega

/-- An attempt is made at a target that is to be visited, and its page is read with the value in the queue. -/
theorem State.eq_of_attempt? {plan : Plan} {state : State} {event : Event} {attempt : Attempt}
    (made : state.attempt? plan event = some attempt) : attempt.target ∈ state.schedule.outstanding ∧
      attempt.finding = attempt.outcome.find plan attempt.target.url
        (state.queue.parentValue attempt.target.url) := by
  -- No other event, and no other phase, has an attempt.
  unfold attempt? at made
  split at made
  · split at made
    · rename_i unanswered phase
      split at made
      · rename_i target stands
        obtain ⟨after, -, rfl⟩ := Option.map_eq_some_iff.mp made
        have among : target ∈ state.unanswered := by
          rw [State.unanswered, phase]
          exact List.mem_of_getElem? stands
        exact ⟨List.mem_append_left _ among, state.find_eq ..⟩
      · cases made
    · cases made
  · cases made

/-- An attempt is made by an event that meets what the events before have led to. -/
theorem exists_event_of_attempt {plan : Plan} {events : List Event} {earlier later : List Attempt}
    {attempt : Attempt} (split : attempts plan events = earlier ++ attempt :: later) :
    ∃ before event after, events = before ++ event :: after ∧ attempts plan before = earlier ∧
      (History.after plan before).state.attempt? plan event = some attempt := by
  induction events using List.reverseRecOn generalizing later with
  | nil => cases earlier <;> cases split
  | append_singleton events event ih =>
    -- The attempt is made by the last event, or by one before.
    have sooner {rest : List Attempt} (before : attempts plan events = earlier ++ attempt :: rest) :
        ∃ before other after, events ++ [event] = before ++ other :: after ∧ attempts plan before = earlier ∧
          (History.after plan before).state.attempt? plan other = some attempt := by
      obtain ⟨front, other, back, rfl, same, made⟩ := ih before
      exact ⟨front, other, back ++ [event], by simp, same, made⟩
    rw [attempts_append_singleton] at split
    cases made : (History.after plan events).state.attempt? plan event with
    | none =>
      rw [made, Option.toList_none, List.append_nil] at split
      exact sooner split
    | some last =>
      rw [made, Option.toList_some] at split
      rcases List.eq_nil_or_concat' later with rfl | ⟨rest, other, rfl⟩
      · obtain ⟨same, own⟩ := List.append_inj' split rfl
        exact ⟨events, event, [], rfl, same, made.trans (by rw [List.singleton_inj.mp own])⟩
      · rw [← List.cons_append, ← List.append_assoc] at split
        exact sooner (List.append_inj' split rfl).1

/-- The links leased by the first events are the first ones leased. -/
theorem batchesIn_append_isPrefix (plan : Plan) (before after : List Event) :
    batchesIn (History.after plan before).log <+: batchesIn (History.after plan (before ++ after)).log := by
  -- An event leases another batch behind those before it, or none.
  induction after using List.reverseRecOn with
  | nil => simp
  | append_singleton after event ih =>
    rw [← List.append_assoc, History.after_append_singleton, batchesIn_step]
    exact ih.trans (List.prefix_append ..)

namespace Schedule.Run

variable {giveUpAfter : Nat} {batches batches' : List (List Link)} {visits visits' : List Visit}
  {schedule : Schedule}

/-- If the address of a detail page is queued once in the end, the value of that page is filed as long as its
target is to be visited. -/
theorem filedValue_of_single (run : Run giveUpAfter batches visits schedule) (first : batches <+: batches')
    (second : visits <+: visits') {page : DetailPage} (among : page ∈ named visits')
    (single : targetsAt (enqueued batches' visits') page.url = 1) {target : Target}
    (stands : target ∈ schedule.outstanding) (own : target.url = page.url) :
    filedValue giveUpAfter visits page.url = page.parentValue := by
  have queued := run.mem_enqueued target (List.mem_append_right _ stands)
  obtain ⟨once, values⟩ := valuesAt_of_single first second among single queued own
  -- All visits of the address so far have put the target back.
  rw [← own] at once
  obtain ⟨-, failed, few⟩ := run.fetchesAt_eq_of_single stands once
  rw [own] at failed few
  rw [filedValue_of_returns fun front visit back => returns_of_fetchesAt_eq failed few, values]
  rfl

end Schedule.Run

/-- With which values a crawl reads its pages. -/
structure ReadAsFiled (plan : Plan) (events : List Event) : Prop where
  /-- A page is read with what the attempts before have left with its address. -/
  filed : ∀ {earlier attempt later}, attempts plan events = earlier ++ attempt :: later →
    attempt.finding = attempt.outcome.find plan attempt.target.url
      (filedValue plan.settings.giveUpAfter (visitsOf earlier) attempt.target.url)
  /-- That is the value of a listing entry, if no later entry has the address and no attempt in between files
  anything under it. -/
  own : ∀ {earlier listing between attempt later}, ∀ {front back : List DetailPage} {page : DetailPage},
    attempts plan events = earlier ++ listing :: between ++ attempt :: later →
      listing.named = front ++ page :: back → page.url ∉ back.map (·.url) →
        Unfiled plan.settings.giveUpAfter page.url (visitsOf (earlier ++ [listing])) (visitsOf between) →
          attempt.target.url = page.url →
            attempt.finding = attempt.outcome.find plan page.url page.parentValue
  /-- It is empty after an attempt at the address that was no listing and was not put back, if no attempt in between
  files anything under it. -/
  lost : ∀ {earlier last between attempt later},
    attempts plan events = earlier ++ last :: between ++ attempt :: later →
      last.finding.lists = false →
        last.returns plan.settings.giveUpAfter (visitsOf earlier) = false →
          Unfiled plan.settings.giveUpAfter last.target.url (visitsOf (earlier ++ [last])) (visitsOf between) →
            attempt.target.url = last.target.url →
              attempt.finding = attempt.outcome.find plan attempt.target.url ""
  /-- A detail page whose address is queued only once is read with the value of its listing entry, however often
  it is tried. -/
  alone : ∀ page ∈ named (visits plan events), targetsAt (queuedIn plan events) page.url = 1 →
    ∀ attempt ∈ attempts plan events, attempt.target.url = page.url →
      attempt.finding = attempt.outcome.find plan page.url page.parentValue

/-- A page is read with the value that was filed last under its address. -/
theorem read_as_filed (plan : Plan) (events : List Event) : ReadAsFiled plan events := by
  -- The value that is handed over is what the queue holds when the page is read.
  have filed {earlier later : List Attempt} {attempt : Attempt}
      (split : attempts plan events = earlier ++ attempt :: later) :
      attempt.finding = attempt.outcome.find plan attempt.target.url
        (filedValue plan.settings.giveUpAfter (visitsOf earlier) attempt.target.url) := by
    obtain ⟨before, event, after, -, rfl, made⟩ := exists_event_of_attempt split
    have kept := (schedule_run plan before).1.parentValue_eq_filed attempt.target.url
    rw [visits_eq] at kept
    rw [(State.eq_of_attempt? made).2, visitsOf, ← kept, State.schedule]
  -- What an attempt files is there until another one files something.
  have since {earlier between later : List Attempt} {last attempt : Attempt} {url value : String}
      (split : attempts plan events = earlier ++ last :: between ++ attempt :: later)
      (files : last.filing? (last.returns plan.settings.giveUpAfter (visitsOf earlier)) url = some value)
      (unfiled : Unfiled plan.settings.giveUpAfter url (visitsOf (earlier ++ [last])) (visitsOf between))
      (same : attempt.target.url = url) : attempt.finding = attempt.outcome.find plan url value := by
    have one : visitsOf [last] = [last.toVisit] := rfl
    rw [visitsOf_append, one] at unfiled
    rw [filed split, same, List.append_cons, visitsOf_append, visitsOf_append, one,
      filedValue_of_filing files unfiled]
  exact {
    filed
    own := fun split names last unfiled same =>
      since split (by rw [Visit.filing?, names, getLast?_valuesAt last, Option.some_or]) unfiled same
    lost := fun split unlisted left unfiled same => by
      refine same ▸ since split ?_ unfiled same
      rw [Visit.filing?_of_unlisted unlisted, if_pos ⟨rfl, left⟩]
    alone := fun page among single attempt tried same => by
      obtain ⟨earlier, later, split⟩ := List.append_of_mem tried
      obtain ⟨before, event, after, rfl, rfl, made⟩ := exists_event_of_attempt split
      have second : visits plan before <+: visits plan (before ++ event :: after) := by
        rw [visits_eq, visits_eq, split, List.map_append]
        exact List.prefix_append ..
      have kept := (schedule_run plan before).1.filedValue_of_single (batchesIn_append_isPrefix plan before _)
        second among single (State.eq_of_attempt? made).1 same
      rw [visits_eq] at kept
      rw [filed split, same, visitsOf, kept] }

/-- The values with which a crawl reads the detail pages of an address that are taken by the pattern, in order. -/
def valuesRead (plan : Plan) (events : List Event) (url : String) : List String :=
  (turns plan events).filterMap fun (state, event) =>
    (state.visit? plan event).bind fun visit =>
      if visit.target = ⟨url, maxDepth⟩ ∧ visit.finding.extracts then some (state.queue.parentValue url) else none

/-- Is each detail page that is taken by the pattern read with the value of a listing entry of its own? -/
def ReadAsListed (plan : Plan) (events : List Event) : Prop :=
  ∀ url, (valuesRead plan events url).Subperm (valuesAt (named (visits plan events)) url)

/-- A plan like that for listings, where a page gives the value of its listing entry. -/
def valuePlan : Plan :=
  let source := "\x7b\"t\": \x7b\"pattern\": \"p\", \"value\": \"text\", \"validation\": " ++
    "\x7b\"equation\": \"value != parentValue\", \"targetValue\": \"parentValue\"\x7d\x7d\x7d"
  { listingPlan with pattern := (Pattern.parse source).toOption.getD (.group []) }

/-- Two entries of a listing, with the values `v` and `w`, have the same address, and both targets are fetched. -/
def sharedAddress : List Event :=
  let page (body : String) : Event := .fetched 0 (.answered 200 [] body) ⟨0, 0, "f"⟩
  [.leased (.ok [{ id := "1", url := "http://s/a", ruleId := "r", updated := 0 }]), .clock false, .client true,
    page "<li><b>v</b><a href=/d>x</a></li><li><b>w</b><a href=/d>x</a></li>",
    .clock false, .client true, page "<p>x</p>", page "<p>x</p>"]

/-- In the sample the second entry decides how the first of the two pages is read, and that page leaves no value for the
second one. -/
theorem read_as_filed_sharedAddress : ∃ listing first second,
    attempts valuePlan sharedAddress = [listing, first, second] ∧
      listing.named = [⟨"http://s/d", "v"⟩, ⟨"http://s/d", "w"⟩] ∧
      (first.target.url = "http://s/d" ∧ first.finding = first.outcome.find valuePlan "http://s/d" "w") ∧
      second.target.url = "http://s/d" ∧ second.finding = second.outcome.find valuePlan "http://s/d" "" := by
  have run : (attempts valuePlan sharedAddress).map (fun attempt =>
      (attempt.target.url, attempt.named, attempt.finding.lists, attempt.finding.fails)) =
        [("http://s/a", [⟨"http://s/d", "v"⟩, ⟨"http://s/d", "w"⟩], true, false), ("http://s/d", [], false, false),
          ("http://s/d", [], false, false)] := by
    decide +kernel
  obtain ⟨listing, rest, all, seed, run⟩ := List.map_eq_cons_iff.mp run
  obtain ⟨first, rest, rfl, page, run⟩ := List.map_eq_cons_iff.mp run
  obtain ⟨second, rest, rfl, again, run⟩ := List.map_eq_cons_iff.mp run
  obtain rfl := List.map_eq_nil_iff.mp run
  simp only [Prod.mk.injEq] at seed page again
  obtain ⟨-, names, -⟩ := seed
  obtain ⟨own, -, unlisted, done⟩ := page
  -- Nothing comes between the attempts that could file anything.
  have unfiled (earlier : List Visit) : Unfiled valuePlan.settings.giveUpAfter "http://s/d" earlier [] :=
    fun front visit back split => absurd split.symm (by simp)
  have filed := read_as_filed valuePlan sharedAddress
  refine ⟨listing, first, second, all, names, ⟨own, ?_⟩, again.1, ?_⟩
  · exact @ReadAsFiled.own _ _ filed [] listing [] first [second] [⟨"http://s/d", "v"⟩] [] ⟨"http://s/d", "w"⟩ all names
      (by simp) (unfiled _) own
  · have lost := @ReadAsFiled.lost _ _ filed [listing] first [] second [] all unlisted
      (by rw [Visit.returns, done, Bool.false_and]) (own ▸ unfiled _) (again.1.trans own.symm)
    rwa [again.1] at lost

/-- In the sample the first of the two pages is read with the value of the other entry, and the second one with
none, and so their records have it. -/
theorem not_readAsListed : ¬ReadAsListed valuePlan sharedAddress ∧
    ((recordsIn (History.after valuePlan sharedAddress).log).map fun (_, fields) =>
      (fields.get? "t").bind fun value => (value.field "value").string?) = [some "w", some ""] := by
  have run : valuesRead valuePlan sharedAddress "http://s/d" = ["w", ""] ∧
      valuesAt (named (visits valuePlan sharedAddress)) "http://s/d" = ["v", "w"] ∧
      ((recordsIn (History.after valuePlan sharedAddress).log).map fun (_, fields) =>
        (fields.get? "t").bind fun value => (value.field "value").string?) = [some "w", some ""] := by
    decide +kernel
  obtain ⟨read, listed, texts⟩ := run
  refine ⟨fun own => ?_, texts⟩
  -- No entry has the value of the second page.
  have parts := own "http://s/d"
  rw [read, listed] at parts
  exact absurd (parts.subset (by simp : "" ∈ ["w", ""])) (by decide)

end Harvest.Crawl

import Harvest.Lease.Maintenance
import Harvest.Proofs.Lease.Series

/-! Spans of seconds in settings and rules. A span that a signed word has room for counts as it is; a longer one is read
as a negative number, so that a sweep looks ahead and a rule is due before its time. -/

namespace Harvest

/-- Seconds that are cut off towards zero are reached a whole second early if they are not positive. -/
theorem le_tdiv_thousand (seconds span : Int) :
    seconds ≤ Int.tdiv span 1000 ↔ if 0 < seconds then 1000 * seconds ≤ span else 1000 * (seconds - 1) < span := by
  have whole := Int.mul_tdiv_add_tmod span 1000
  -- What is cut off has the sign of the span, and is less than a second.
  rcases Int.le_total 0 span with ahead | behind
  · have nonneg := Int.tmod_nonneg 1000 ahead
    have short := Int.tmod_lt_of_pos span (show (0 : Int) < 1000 by decide)
    split <;> omega
  · have nonpos : 0 ≤ (-span).tmod 1000 := Int.tmod_nonneg 1000 (Int.neg_nonneg.mpr behind)
    rw [Int.neg_tmod] at nonpos
    have short := Int.lt_tmod_of_pos span (show (0 : Int) < 1000 by decide)
    split <;> omega

namespace Rule

/-- Whether a rule is due is decided by its frequency as a signed word. -/
theorem isDue_iff (rule : Rule) (time : Int) : rule.isDue time = true ↔
    rule.status = .active ∧ ∀ last ∈ rule.generated,
      0 < rule.frequency ∧ Word.signed rule.frequency ≤ Int.tdiv (time - last) 1000 := by
  -- A rule that has never been generated is due as long as it is active.
  unfold isDue
  cases rule.generated with
  | none => simp
  | some last => simp [Nat.pos_iff_ne_zero]

/-- The rule is in use. If it has links, its frequency is not nothing, and so many seconds have passed since then. -/
def FallsDue (rule : Rule) (time : Int) : Prop :=
  rule.status = .active ∧ ∀ last ∈ rule.generated, 0 < rule.frequency ∧ 1000 * rule.frequency ≤ time - last

instance (time : Int) : DecidablePred (FallsDue · time) :=
  fun rule => inferInstanceAs (Decidable (_ ∧ ∀ last ∈ rule.generated, _ ∧ 1000 * (rule.frequency : Int) ≤ time - last))

/-- A rule that is due stays due until it is cancelled or gets links. -/
theorem FallsDue.later {rule : Rule} {time time' : Int} (due : rule.FallsDue time) (later : time ≤ time') :
    rule.FallsDue time' := by
  -- The seconds since the last generation become more.
  refine ⟨due.1, fun last generated => ?_⟩
  obtain ⟨positive, passed⟩ := due.2 last generated
  exact ⟨positive, by omega⟩

/-- The rule is in use. If it has links, the time is not too long before them. -/
def FallsDueEarly (rule : Rule) (time : Int) : Prop :=
  rule.status = .active ∧ ∀ last ∈ rule.generated, last - time < 1000 * (Word.bound - rule.frequency + 1)

/-- A frequency that a signed word has room for counts exactly. -/
theorem isDue_iff_of_lt {rule : Rule} (short : rule.frequency < Word.signBound) (time : Int) :
    rule.isDue time = true ↔ rule.FallsDue time := by
  -- A word that is short enough counts as itself, and the seconds that have passed are rounded.
  rw [isDue_iff, Word.signed_of_lt short]
  refine and_congr_right fun _ => forall₂_congr fun last _ => and_congr_right fun positive => ?_
  rw [le_tdiv_thousand, if_pos (by omega)]

/-- With any longer frequency the rule is due before its time. -/
theorem isDue_iff_of_le {rule : Rule} (long : Word.signBound ≤ rule.frequency) (word : rule.frequency < Word.bound)
    (time : Int) : rule.isDue time = true ↔ rule.FallsDueEarly time := by
  -- A longer word counts as a negative number of seconds, which have always passed some time ahead.
  have positive : 0 < rule.frequency := Nat.lt_of_lt_of_le (by decide) long
  have negative : ¬0 < (rule.frequency - Word.bound : Int) := by omega
  rw [isDue_iff, Word.signed_of_le long]
  refine and_congr_right fun _ => forall₂_congr fun last _ => ?_
  rw [le_tdiv_thousand, if_neg negative]
  constructor
  · rintro ⟨-, reached⟩
    omega
  · intro reached
    exact ⟨positive, by omega⟩

end Rule

/-- What may become of a link in a sweep for leases from before the bound. -/
inductive Link.Swept (bound now : Int) : Link → Link → Prop
  | stays {link : Link} : Swept bound now link link
  | takenBack {link : Link} (leased : link.status = .running) (old : link.updated < bound) :
      Swept bound now link { link with status := .active, worker := "", updated := now }

namespace Lease

/-- The cutoff is as long before the sweep as the setting says as a signed word, if the calendar has room for it. -/
theorem cutoff?_eq (settings : LeaseSettings) (now : Instant) :
    cutoff? settings now =
      if Record.IsTime (now - settings.reclaimMillis) then some (now - settings.reclaimMillis) else none := by
  obtain ⟨now, known⟩ := now
  unfold Record.IsTime at known
  unfold cutoff? LeaseSettings.reclaimSpan? Calendar.before?
  by_cases inRange : Record.IsTime (now - settings.reclaimMillis)
  · -- Between two times of the calendar there is no span that a signed word has no room for.
    have room : settings.reclaimMillis.natAbs < Word.signBound := by
      unfold Record.IsTime at inRange
      unfold Word.signBound
      omega
    rw [if_pos room, if_pos inRange]
    exact if_pos inRange
  · rw [if_neg inRange]
    split
    · exact if_neg inRange
    · rfl

/-- Every link is taken back or stays in a reclaim. -/
theorem forall₂_swept (bound now : Int) (links : List Link) :
    List.Forall₂ (Link.Swept bound now) links (reclaimed bound now links) := by
  -- Link by link, those that are not stale stay.
  rw [reclaimed, changeLinks, List.forall₂_map_right_iff, List.forall₂_same]
  intro link _
  split
  · rename_i stale
    exact .takenBack stale.1 stale.2
  · exact .stays

section Sweep

open Operation

variable {name : Nat → String} {mayFail : Prop} {ledger : Ledger}

/-- A reclaim takes back the stale leases, unless its call fails. -/
theorem reclaim_takes (valid : ledger.Valid) (now : Instant) {staleAfter : Int}
    (inRange : Record.IsTime (now - staleAfter)) {ends : Except StoreError Nat → Ledger → Prop}
    (goes : ∀ count, ends (.ok count) { ledger with links := reclaimed (now - staleAfter) now ledger.links })
    (fails : mayFail → ∀ reason, ends (.error (.backend reason)) ledger) :
    Leads name mayFail ends (reclaim now staleAfter) ledger := by
  -- It is one update, of the links that are stale.
  refine leads_updateLinks (fun link => link.chosen_stale (now - staleAfter))
    (fun link => link.members_extend_stamp ..) ?_ fails
  rw [changeLinks_stale valid.dated inRange]
  exact goes _

/-- What a sweep leaves of a ledger: the leases from before its cutoff are taken back. Nothing changes if there is no
such cutoff, or if a call fails. -/
inductive Ledger.Sweeping (mayFail : Prop) (ledger : Ledger) (bound now : Int) : Ledger → Prop
  | swept (inRange : Record.IsTime bound) :
      Sweeping mayFail ledger bound now { ledger with links := reclaimed bound now ledger.links }
  | givenUp (beyond : ¬Record.IsTime bound) : Sweeping mayFail ledger bound now ledger
  | failed (may : mayFail) : Sweeping mayFail ledger bound now ledger

/-- A sweep goes by the setting as a signed word. -/
theorem sweep_leads (valid : ledger.Valid) (settings : LeaseSettings) (now : Instant) :
    Leads name mayFail (fun _ after => ledger.Sweeping mayFail (now - settings.reclaimMillis) now after)
      (sweep settings now) ledger := by
  -- The bound is a time of the calendar, or the sweep is given up.
  unfold sweep
  rw [cutoff?_eq]
  by_cases inRange : Record.IsTime (now - settings.reclaimMillis)
  · rw [if_pos inRange]
    refine leads_bind (leads_tried (reclaim_takes valid now inRange (fun count => ?_) fun may reason => ?_))
    all_goals dsimp only [Further]
    · exact leads_pure (.swept inRange)
    · exact leads_pure (.failed may)
  · rw [if_neg inRange]
    exact leads_pure (.givenUp inRange)

end Sweep

/-- What a sweep does to the links of a store if it is to take back the leases from before the bound. -/
structure Coordinator.SweepsBefore (name : Nat → String) (coordinator : Coordinator) (links : List Link)
    (settings : LeaseSettings) (now : Instant) (bound : Int) : Prop where
  /-- The bound is the cutoff, unless the calendar has no room for it. -/
  cutoff : cutoff? settings now = if Record.IsTime bound then some bound else none
  /-- A sweep that nothing disturbs takes back all leases from before the bound, or none if there is no cutoff. -/
  takes : (coordinator.attempt name [] (sweep settings now)).2.store.documents Lease.links =
    (if Record.IsTime bound then reclaimed bound now links else links).map Link.members
  /-- Whatever calls fail, no other lease is taken back, and no other link changes. -/
  spares : ∀ outages, ∃ after : List Link,
    (coordinator.attempt name outages (sweep settings now)).2.store.documents Lease.links = after.map Link.members ∧
      List.Forall₂ (Link.Swept bound now) links after
  /-- No other document changes. -/
  others : ∀ outages collection, collection ≠ Lease.links →
    (coordinator.attempt name outages (sweep settings now)).2.store.documents collection =
      coordinator.store.documents collection

/-- A reached coordinator sweeps as its ledger says. -/
theorem Ledger.Reached.sweepsBefore {name : Nat → String} {ledger : Ledger} {coordinator : Coordinator}
    (reached : ledger.Reached name coordinator) (settings : LeaseSettings) (now : Instant) {bound : Int}
    (same : now - settings.reclaimMillis = bound) :
    coordinator.SweepsBefore name ledger.links settings now bound := by
  subst same
  have led (outages : List Outage) := @sweep_leads name (outages ≠ []) ledger reached.valid settings now
  refine ⟨cutoff?_eq settings now, ?_, fun outages => ?_, fun outages collection other => ?_⟩
  · obtain ⟨after, behind, ended⟩ := led [] _ (reached.armed [])
    refine behind.kept.links.trans ?_
    cases ended with
    | swept inRange => rw [if_pos inRange]
    | givenUp beyond => rw [if_neg beyond]
    | failed may => exact absurd rfl may
  · obtain ⟨after, behind, ended⟩ := led outages _ (reached.armed outages)
    refine ⟨after.links, behind.kept.links, ?_⟩
    cases ended with
    | swept inRange => exact forall₂_swept ..
    | givenUp beyond => exact List.forall₂_same.mpr fun _ _ => .stays
    | failed may => exact List.forall₂_same.mpr fun _ _ => .stays
  · obtain ⟨after, behind, ended⟩ := led outages _ (reached.armed outages)
    -- Whatever became of the links, the rules are the same.
    have rules : after.rules = ledger.rules := by cases ended <;> rfl
    by_cases ruled : collection = Lease.rules
    · rw [ruled, reached.behind.kept.rules]
      exact behind.kept.rules.trans (by rw [rules])
    · rw [reached.behind.others collection ruled other]
      exact behind.others collection ruled other

namespace System

/-- In every state that operations can leave behind, a sweep whose span a signed word has room for takes back leases
that are older than it, and a rule with such a frequency is due only when it has passed. A span that is longer is read
as one that reaches as far ahead as it falls short of a word. -/
theorem spans_count {name : Nat → String} (injective : Function.Injective name) (actions : List Action)
    (now : Instant) :
    ∃ links : List Link, (after name actions).linkDocuments = links.map Link.members ∧
      (∀ settings : LeaseSettings, settings.reclaimAfter < Word.signBound →
        (after name actions).coordinator.SweepsBefore name links settings now
          (now - 1000 * settings.reclaimAfter)) ∧
      (∀ settings : LeaseSettings, Word.signBound ≤ settings.reclaimAfter →
        (after name actions).coordinator.SweepsBefore name links settings now
          (now + 1000 * (Word.bound - settings.reclaimAfter))) ∧
      ∀ (rule : Rule) (time : Int),
        (rule.frequency < Word.signBound → (rule.isDue time = true ↔ rule.FallsDue time)) ∧
        (Word.signBound ≤ rule.frequency → rule.frequency < Word.bound →
          (rule.isDue time = true ↔ rule.FallsDueEarly time)) := by
  -- A sweep goes by the setting as a signed word, which is the setting or falls short of it by a whole word.
  obtain ⟨ledger, reached⟩ := Ledger.Reached.exists_of_after injective actions
  refine ⟨ledger.links, reached.behind.kept.links, fun settings short => ?_, fun settings long => ?_, fun rule time =>
    ⟨fun short => Rule.isDue_iff_of_lt short time, fun long word => Rule.isDue_iff_of_le long word time⟩⟩
  · refine reached.sweepsBefore settings now ?_
    rw [LeaseSettings.reclaimMillis, Word.signed_of_lt short]
  · refine reached.sweepsBefore settings now ?_
    rw [LeaseSettings.reclaimMillis, Word.signed_of_le long]
    omega

/-- On the sample day the only lease is taken back ten milliseconds later if that is to happen at once, and the rule is
due again as soon as its second has passed. -/
theorem spans_count_sampleDay :
    (after Supply.strokes (sampleDay.take 12)).linkDocuments = [(sampleLink "w" 0).members] ∧
      cutoff? { reclaimAfter := 0 } noon = some 10 ∧ (sampleLink "w" 0).IsStale 10 ∧
      { sampleRule with frequency := 1, generated := some 0 }.isDue 999 = false ∧
      { sampleRule with frequency := 1, generated := some 0 }.isDue 1000 = true ∧
    ∃ links : List Link, (after Supply.strokes (sampleDay.take 12)).linkDocuments = links.map Link.members ∧
      (∀ settings : LeaseSettings, settings.reclaimAfter < Word.signBound →
        (after Supply.strokes (sampleDay.take 12)).coordinator.SweepsBefore Supply.strokes links settings noon
          (noon - 1000 * settings.reclaimAfter)) ∧
      (∀ settings : LeaseSettings, Word.signBound ≤ settings.reclaimAfter →
        (after Supply.strokes (sampleDay.take 12)).coordinator.SweepsBefore Supply.strokes links settings noon
          (noon + 1000 * (Word.bound - settings.reclaimAfter))) ∧
      ∀ (rule : Rule) (time : Int),
        (rule.frequency < Word.signBound → (rule.isDue time = true ↔ rule.FallsDue time)) ∧
        (Word.signBound ≤ rule.frequency → rule.frequency < Word.bound →
          (rule.isDue time = true ↔ rule.FallsDueEarly time)) :=
  ⟨by rfl, by decide, by decide, by decide, by decide, spans_count Supply.strokes_injective (sampleDay.take 12) noon⟩

/-- With the longest spans the lease of the sample day is taken back after ten milliseconds, and the rule is due again
when it has just got its links; with one that is half as long, a sweep has no cutoff at all. -/
theorem long_spans_run_out :
    let never : LeaseSettings := { reclaimAfter := 0xffffffffffffffff }
    let coordinator := (after Supply.strokes (sampleDay.take 12)).coordinator
    never.reclaimAfter < Word.bound ∧ coordinator.store.documents links = [(sampleLink "w" 0).members] ∧
      (0 : Int) > noon - 1000 * never.reclaimAfter ∧
      (coordinator.attempt Supply.strokes [] (sweep never noon)).2.store.documents links =
        [{ sampleLink "" noon with status := .active }].map Link.members ∧
      { sampleRule with frequency := 0xffffffffffffffff, generated := some 0 }.isDue 0 = true ∧
      cutoff? { reclaimAfter := 0x4000000000000000 } noon = none := by
  intro never coordinator
  have documents : coordinator.store.documents links = [sampleLink "w" 0].map Link.members := by rfl
  obtain ⟨ledger, reached⟩ := Ledger.Reached.exists_of_after Supply.strokes_injective (sampleDay.take 12)
  have only : ledger.links = [sampleLink "w" 0] :=
    List.map_injective_iff.mpr Link.members_injective (reached.behind.kept.links.symm.trans documents)
  -- The span is read as one second ahead.
  have sweeps : coordinator.SweepsBefore Supply.strokes ledger.links never noon (noon + 1000) :=
    reached.sweepsBefore never noon (by decide)
  refine ⟨by decide, documents, by decide, ?_, by decide, by decide⟩
  rw [sweeps.takes, only]
  exact congrArg (List.map Link.members) (by decide)

end System

end Lease

end Harvest

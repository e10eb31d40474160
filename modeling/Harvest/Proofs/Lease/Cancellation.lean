import Harvest.Proofs.Lease.Series

/-! The cancellation of a rule is final: as long as no rule is stored under its identifier again, it stays cancelled
and none of its links comes back to life, whatever else is done and wherever an operation fails. -/

namespace Harvest

open Lease

/-- A rule that moves keeps its identifier, and stays cancelled if it is. -/
theorem Rule.Moves.staysCancelled {request : Request} {before after : Rule} (moves : Rule.Moves request before after)
    (done : before.status = .cancelled) : after.id = before.id ∧ after.status = .cancelled := by
  -- No step of a rule makes it active again.
  cases moves with
  | stays => exact ⟨rfl, done⟩
  | cancelled now => exact ⟨rfl, rfl⟩
  | generated now => exact ⟨rfl, done⟩

namespace Lease

/-- Putting a rule among others leaves the rules of all other names as they are. -/
theorem mem_putRule_of_ne {rule put : Rule} {rules : List Rule} (among : rule ∈ rules) (differ : rule.id ≠ put.id) :
    rule ∈ putRule put rules := by
  -- By the rules, up to the one that is replaced.
  induction rules with
  | nil => cases among
  | cons old rest ih =>
    rw [putRule]
    rcases List.mem_cons.mp among with rfl | later
    · rw [if_neg differ]
      exact List.mem_cons_self
    · split
      · exact List.mem_cons_of_mem _ later
      · exact List.mem_cons_of_mem _ (ih later)

/-- A rule stays cancelled, however the rules of a ledger become others, unless one is stored under its name. -/
theorem RulesBecome.cancelled {name : Nat → String} {before : Ledger} {request : Request} {rules : List Rule}
    {id : String} (become : RulesBecome name before request rules)
    (spared : ∀ given fits, request = .upsertRule given fits → storedId name before.minted given ≠ id)
    (cancelled : ∃ rule ∈ before.rules, rule.id = id ∧ rule.status = .cancelled) :
    ∃ rule ∈ rules, rule.id = id ∧ rule.status = .cancelled := by
  obtain ⟨rule, among, named, done⟩ := cancelled
  cases become with
  | moved moves =>
    obtain ⟨after, among', move⟩ := exists_of_mem_before moves among
    obtain ⟨same, stays⟩ := move.staysCancelled done
    exact ⟨after, among', same.trans named, stays⟩
  | @put given fits now =>
    -- The rule that is put has another name.
    exact ⟨rule, mem_putRule_of_ne among (named.trans_ne (spared given fits rfl).symm), named, done⟩

/-- A cancelled rule gets no open links, however the links of a ledger become others. -/
theorem LinksBecome.cancelled {before : Ledger} {request : Request} {links : List Link} {id : String}
    (become : LinksBecome before request links) (valid : before.Valid) (cancelled : before.Cancelled id) :
    openLinks id links = [] := by
  -- Links that move are closed if they were.
  have closed {request : Request} {moved : List Link}
      (moves : List.Forall₂ (Link.Moves request) before.links moved) : openLinks id moved = [] := by
    have among := openLinks_moves moves id
    rw [cancelled.links, List.map_nil, List.sublist_nil] at among
    exact List.map_eq_nil_iff.mp among
  cases become with
  | moved moves => exact closed moves
  | @generated rule moved added stored inUse moves _ pages own =>
    -- No links are generated for the rule itself.
    have differ : rule.id ≠ id := by
      intro itself
      obtain ⟨other, among, named, done⟩ := cancelled.rule
      obtain rfl := List.inj_on_of_nodup_map valid.ruleIds among stored (named.trans itself.symm)
      exact inUse done
    rw [openLinks_append, closed moves, openLinks_of_others own differ, List.append_nil]

/-- None of the tasks stores a rule under the identifier. -/
def Spares (name : Nat → String) (id : String) : Coordinator → List Task → Prop
  | _, [] => True
  | coordinator, task :: rest =>
    (∀ given fits, task.request = .upsertRule given fits → storedId name coordinator.minted given ≠ id) ∧
      Spares name id (coordinator.work name task) rest

/-- Tasks that store rules under other names of their own spare an identifier, whatever names are given out. -/
theorem spares_of_named (name : Nat → String) {id : String} {tasks : List Task}
    (named : ∀ task ∈ tasks, ∀ given fits, task.request = .upsertRule given fits → given.id ≠ "" ∧ given.id ≠ id)
    (coordinator : Coordinator) : Spares name id coordinator tasks := by
  -- By the tasks, whatever coordinator the first ones leave behind.
  induction tasks generalizing coordinator with
  | nil => trivial
  | cons task rest ih =>
    refine ⟨fun given fits same => ?_, ih (fun later among => named later (List.mem_cons_of_mem _ among)) _⟩
    obtain ⟨own, other⟩ := named task List.mem_cons_self given fits same
    rwa [storedId, if_neg own]

/-- One of the tasks has leased the link for the rule. -/
def LeasedIn (name : Nat → String) (tasks : List Task) (ruleId linkId : String) : Prop :=
  ∃ (earlier rest : List Task) (now : Instant) (outages : List Outage) (worker : String) (size : Nat)
    (leased : List Link),
    tasks = earlier ++ ⟨now, outages, .allocate ruleId worker size⟩ :: rest ∧
    ((Coordinator.workOff name {} earlier).attempt name outages (allocate now ruleId worker size)).1 = .ok leased ∧
    ∃ link ∈ leased, link.id = linkId

section Cancelled

open Operation

variable {name : Nat → String} {mayFail : Prop} {ledger : Ledger} {id : String} {now : Int}

/-- Nothing is leased of a rule without open links. -/
theorem allocate_closed (valid : ledger.Valid) (closed : openLinks id ledger.links = []) (worker : String)
    (size : Nat) :
    Leads name mayFail (Idles mayFail ledger (· =
      if worker = "" then .error (.invalidInput "worker ID is empty") else .ok []))
        (allocate now id worker size) ledger := by
  unfold allocate
  dsimp only
  by_cases named : worker = ""
  · simp only [if_pos named]
    exact leads_bind (leads_throw (idles_gives rfl))
  simp only [if_neg named]
  by_cases empty : size = 0
  · rw [if_pos empty]
    exact leads_pure (idles_gives rfl)
  rw [if_neg empty]
  refine leads_readLinks valid.dated ?_ fun may reason => idles_fails may reason
  -- An active link of the rule would be open.
  have none_there : (Page.first size).window (ledger.links.filter fun link => Store.chosen
      [Filter.isText "ruleID" id, Filter.isText "status" LinkStatus.active.text] link.members) = [] := by
    rw [List.eq_nil_iff_forall_not_mem]
    intro link shown
    obtain ⟨among, chosen⟩ := List.mem_filter.mp (Page.mem_of_mem_window shown)
    obtain ⟨own, active⟩ := (link.chosen_ofRule id .active).mp chosen
    have isOpen := List.filter_eq_nil_iff.mp closed link among
    simp [own, active] at isOpen
  rw [none_there]
  exact leads_pure (idles_gives rfl)

/-- No links are generated for a cancelled rule. -/
theorem generateLinks_cancelled (valid : ledger.Valid)
    (cancelled : ∃ rule ∈ ledger.rules, rule.id = id ∧ rule.status = .cancelled) :
    Leads name mayFail (Idles mayFail ledger (· = .error (.invalidInput ("rule " ++ id ++ " is cancelled"))))
      (generateLinks now id) ledger := by
  -- The rule is found, for identifiers are unique, and its status is looked at before anything is written.
  obtain ⟨rule, among, named, done⟩ := cancelled
  refine leads_bind (leads_getRule valid (fun other among' named' => ?_)
    (fun absent => absurd named (absent rule among)) fun may reason => ⟨rfl, .inr ⟨may, reason, rfl⟩⟩)
  obtain rfl := List.inj_on_of_nodup_map valid.ruleIds among among' (named.trans named'.symm)
  dsimp only [Further]
  rw [if_pos done]
  exact leads_bind (leads_throw (idles_gives rfl))

/-- A cancelled rule is not active, whichever stored rule has its name. -/
theorem not_active_of_cancelled (valid : ledger.Valid)
    (cancelled : ∃ rule ∈ ledger.rules, rule.id = id ∧ rule.status = .cancelled) :
    ∀ rule ∈ ledger.rules, rule.status = .active → rule.id ≠ id := by
  -- Identifiers are unique, so that it would be active and cancelled at once.
  intro rule among active named
  obtain ⟨other, among', named', done⟩ := cancelled
  obtain rfl := List.inj_on_of_nodup_map valid.ruleIds among' among (named'.trans named.symm)
  cases done.symm.trans active

/-- A cancelled rule is never due. -/
theorem dueRules_cancelled (valid : ledger.Valid)
    (cancelled : ∃ rule ∈ ledger.rules, rule.id = id ∧ rule.status = .cancelled) (at_ : Int) :
    Leads name mayFail (Idles mayFail ledger fun outcome => ∃ due, outcome = .ok due ∧ ∀ rule ∈ due, rule.id ≠ id)
      (dueRules now at_) ledger := by
  refine leads_readRules valid.usable (leads_pure (idles_gives ⟨_, rfl, fun rule shown => ?_⟩))
    fun may reason => idles_fails may reason
  -- Whatever the time is, only an active rule is due.
  obtain ⟨found, due⟩ := List.mem_filter.mp shown
  have active : rule.status = .active := by
    unfold Rule.isDue at due
    exact of_decide_eq_true (Bool.and_eq_true _ _ ▸ due).1
  exact not_active_of_cancelled valid cancelled rule
    (List.mem_of_mem_filter (Page.mem_of_mem_window found)) active

/-- A cancelled rule is never selected for its links. -/
theorem selectRule_cancelled (valid : ledger.Valid)
    (cancelled : ∃ rule ∈ ledger.rules, rule.id = id ∧ rule.status = .cancelled) (sample : Nat)
    (shuffle : List String → List String) :
    Leads name mayFail (Idles mayFail ledger fun outcome =>
        ∃ found, outcome = .ok found ∧ ∀ rule ∈ found, rule.id ≠ id)
      (selectRule now sample shuffle none) ledger := by
  -- The rules of the sampled links are tried, and only an active one is given.
  refine leads_readLinks valid.dated (firstActive_leads valid _ [] (by simp) (fun rule among _ active => ?_)
    (fun _ => idles_gives ⟨none, rfl, by simp⟩) fun may reason => idles_fails may reason)
    fun may reason => idles_fails may reason
  refine idles_gives ⟨some rule, rfl, fun other same => ?_⟩
  cases same
  exact not_active_of_cancelled valid cancelled rule among active

/-- Completing closed links changes nothing. -/
theorem complete_closed {ids : List String}
    (closed : ∀ link ∈ ledger.links, link.id ∈ ids → ¬(link.status = .running ∨ link.status = .active)) :
    Leads name mayFail (Idles mayFail ledger (· = .ok 0)) (complete now ids) ledger := by
  -- Without a link to change, the update counts none and leaves all of them.
  unfold complete
  split
  · exact leads_pure (idles_gives rfl)
  have untouched : ∀ link ∈ ledger.links,
      ¬(link.id ∈ ids ∧ (link.status = .running ∨ link.status = .active)) :=
    fun link among both => closed link among both.1 both.2
  refine leads_updateLinks (fun link => link.chosen_open ids)
    (fun link => link.members_extend_stamp .completed "" now) ⟨?_, .inl ?_⟩ fun may reason => idles_fails may reason
  · rw [changeLinks, List.map_congr_left fun link among => if_neg (untouched link among), List.map_id']
  · rw [List.countP_eq_zero.mpr (by simpa using untouched)]

end Cancelled

namespace Ledger.Tracks

variable {name : Nat → String} {ledger : Ledger} {coordinator : Coordinator} {id : String}

/-- A rule stays cancelled over a series of tasks that store no rule under its name. -/
theorem staysCancelled (injective : Function.Injective name) (tracks : ledger.Tracks name coordinator)
    (cancelled : ledger.Cancelled id) {later : List Task} (spared : Spares name id coordinator later) :
    ∃ after : Ledger, after.Tracks name (coordinator.workOff name later) ∧ after.Cancelled id := by
  -- One task after the other leaves the rule and its links as they should be.
  induction later generalizing ledger coordinator with
  | nil => exact ⟨ledger, tracks, cancelled⟩
  | cons task rest ih =>
    obtain ⟨next, tracks', does⟩ := tracks.work injective task
    have spares := tracks.behind.minted ▸ spared.1
    exact ih tracks' ⟨does.rules.cancelled spares cancelled.rule, does.links.cancelled tracks.valid cancelled⟩
      spared.2

/-- A link that was leased for a rule is still stored as a link of the rule. -/
theorem exists_of_leasedIn (injective : Function.Injective name) {tasks : List Task}
    (tracks : ledger.Tracks name (Coordinator.workOff name {} tasks)) {linkId : String}
    (leased : LeasedIn name tasks id linkId) : ∃ link ∈ ledger.links, link.id = linkId ∧ link.ruleId = id := by
  obtain ⟨earlier, rest, now, outages, worker, size, given, rfl, gave, link, among, rfl⟩ := leased
  obtain ⟨before, tracks'⟩ := exists_of_workOff injective earlier
  obtain ⟨middle, tracks'', does⟩ := tracks'.work_ended injective (.allocate id worker size) gave
  -- The lease has left the link among the open ones of the rule.
  have told : given.Sublist (openLinks id middle.links) := does.told
  obtain ⟨stored, isOpen⟩ := List.mem_filter.mp (told.subset among)
  have own : link.ruleId = id := by
    simp only [decide_eq_true_eq] at isOpen
    exact isOpen.1
  -- From then on no link has gone.
  obtain ⟨after, tracks''', kept⟩ := tracks''.workOff injective
    (fun ledger => ∃ later ∈ ledger.links, later.id = link.id ∧ later.ruleId = id)
    (fun does ⟨later, member, sameId, sameRule⟩ => by
      obtain ⟨next, member', sameId', sameRule'⟩ := does.links.exists_of_mem member
      exact ⟨next, member', sameId'.trans sameId, sameRule'.trans sameRule⟩)
    ⟨link, stored, rfl, own⟩ rest
  rw [Coordinator.workOff_append_cons] at tracks
  rw [tracks.behind.kept.unique tracks'''.behind.kept]
  exact kept

end Ledger.Tracks

/-- A coordinator has cancelled a rule for good: the rule and its links are stored as cancelled or completed, and
no operation hands out, generates, selects or completes anything of it any more. -/
structure Coordinator.Retired (name : Nat → String) (coordinator : Coordinator) (id : String)
    (leased : String → Prop) : Prop where
  rules : ∃ rules : List Rule, coordinator.store.documents Lease.rules = rules.map Rule.members ∧
    (rules.map Rule.id).Nodup ∧ ∃ rule ∈ rules, rule.id = id ∧ rule.status = .cancelled
  links : ∃ links : List Link, coordinator.store.documents Lease.links = links.map Link.members ∧
    openLinks id links = []
  /-- A worker is given nothing; one without a name is refused as always. -/
  allocate : ∀ (now : Int) (worker : String) (size : Nat),
    coordinator.Answers name (Lease.allocate now id worker size)
      (· = if worker = "" then .error (.invalidInput "worker ID is empty") else .ok [])
  generate : ∀ now : Int, coordinator.Answers name (Lease.generateLinks now id)
    (· = .error (.invalidInput ("rule " ++ id ++ " is cancelled")))
  due : ∀ now at_ : Int, coordinator.Answers name (Lease.dueRules now at_)
    fun outcome => ∃ due, outcome = .ok due ∧ ∀ rule ∈ due, rule.id ≠ id
  select : ∀ (now : Int) (sample : Nat) (shuffle : List String → List String),
    coordinator.Answers name (Lease.selectRule now sample shuffle none)
      fun outcome => ∃ found, outcome = .ok found ∧ ∀ rule ∈ found, rule.id ≠ id
  /-- Late reports of links that were leased for the rule come to nothing. -/
  complete : ∀ (now : Int) (ids : List String), (∀ linkId ∈ ids, leased linkId) →
    coordinator.Answers name (Lease.complete now ids) (· = .ok 0)

namespace Coordinator

variable {name : Nat → String}

/-- Once the cancellation of a rule has succeeded, the rule is cancelled for good after every further series of
tasks that stores no rule under its identifier, wherever calls fail. -/
theorem cancellation_final (injective : Function.Injective name) (earlier : List Task) (now : Instant)
    (outages : List Outage) (id : String) {count : Nat}
    (succeeded : ((workOff name {} earlier).attempt name outages (cancelRule now id)).1 = .ok count)
    (later : List Task)
    (spared : Spares name id (workOff name {} (earlier ++ [⟨now, outages, .cancelRule id⟩])) later) :
    let tasks := earlier ++ ⟨now, outages, .cancelRule id⟩ :: later
    (workOff name {} tasks).Retired name id (LeasedIn name tasks id) := by
  intro tasks
  obtain ⟨before, tracks⟩ := Ledger.Tracks.exists_of_workOff injective earlier
  -- The success of the cancellation tells that the rule is cancelled and has no open links.
  obtain ⟨middle, tracks', does⟩ := tracks.work_ended injective (.cancelRule id) succeeded
  rw [workOff_append_singleton] at spared
  obtain ⟨ledger, tracks'', cancelled⟩ := tracks'.staysCancelled injective does.told spared
  rw [← workOff_append_cons] at tracks''
  have valid := tracks''.valid
  exact {
    rules := ⟨ledger.rules, tracks''.behind.kept.rules, valid.ruleIds, cancelled.rule⟩
    links := ⟨ledger.links, tracks''.behind.kept.links, cancelled.links⟩
    allocate := fun _ worker size => tracks''.answers fun _ => allocate_closed valid cancelled.links worker size
    generate := fun _ => tracks''.answers fun _ => generateLinks_cancelled valid cancelled.rule
    due := fun _ at_ => tracks''.answers fun _ => dueRules_cancelled valid cancelled.rule at_
    select := fun _ sample shuffle =>
      tracks''.answers fun _ => selectRule_cancelled valid cancelled.rule sample shuffle
    complete := fun _ ids leased => tracks''.answers fun _ => complete_closed fun link among named isOpen => by
      -- A link that was leased for the rule is one of its links, and none of these is open.
      obtain ⟨own, among', same, ofRule⟩ := tracks''.exists_of_leasedIn injective (leased link.id named)
      obtain rfl := List.inj_on_of_nodup_map tracks''.unique among' among same
      have closed := List.filter_eq_nil_iff.mp cancelled.links own among
      simp [ofRule, isOpen.symm] at closed }

/-- After the sample series both links of the rule are leased. -/
def sampleLeases : List Task :=
  sampleSeries ++ [⟨System.noon, [], .allocate "r" "v" 5⟩]

/-- Leases are taken back, links of the rule are asked for, and the rule is stored under another identifier. -/
def sampleAfterwards : List Task :=
  [⟨System.noon, [], .reclaim 5⟩, ⟨System.noon, [], .generateLinks "r"⟩,
    ⟨System.noon, [⟨"find", 1, "down"⟩], .upsertRule { changedRule with id := "q" } { changedRule_fits with }⟩]

/-- One of the leased links. -/
theorem leasedIn_sampleLeases (later : List Task) :
    LeasedIn Supply.strokes (sampleLeases ++ later) "r" "|||" :=
  ⟨sampleSeries, later, System.noon, [], "v", 5,
    [⟨"|||", "1v1", .running, "v", "r", 10⟩, ⟨"||||", "2v2", .running, "v", "r", 10⟩],
    List.append_assoc .., by rfl, _, List.mem_cons_self, rfl⟩

/-- The rule of the sample series is cancelled while both of its links are leased. -/
theorem cancellation_final_sampleLeases :
    let tasks := sampleLeases ++ ⟨System.noon, [], .cancelRule "r"⟩ :: sampleAfterwards
    ((workOff Supply.strokes {} sampleLeases).attempt Supply.strokes [] (cancelRule System.noon "r")).1 = .ok 3 ∧
      Spares Supply.strokes "r"
        (workOff Supply.strokes {} (sampleLeases ++ [⟨System.noon, [], .cancelRule "r"⟩])) sampleAfterwards ∧
      LeasedIn Supply.strokes tasks "r" "|||" ∧
      (workOff Supply.strokes {} tasks).Retired Supply.strokes "r" (LeasedIn Supply.strokes tasks "r") := by
  have succeeded : ((workOff Supply.strokes {} sampleLeases).attempt Supply.strokes []
      (cancelRule System.noon "r")).1 = .ok 3 := by rfl
  have spared : Spares Supply.strokes "r"
      (workOff Supply.strokes {} (sampleLeases ++ [⟨System.noon, [], .cancelRule "r"⟩])) sampleAfterwards := by
    refine spares_of_named Supply.strokes (fun task among given fits same => ?_) _
    -- The only rule that is stored has another name.
    simp only [sampleAfterwards, List.mem_cons, List.not_mem_nil, or_false] at among
    rcases among with rfl | rfl | rfl
    · cases same
    · cases same
    · cases same
      decide
  exact ⟨succeeded, spared, leasedIn_sampleLeases _,
    cancellation_final Supply.strokes_injective sampleLeases System.noon [] "r" succeeded sampleAfterwards spared⟩

end Coordinator

end Lease

end Harvest

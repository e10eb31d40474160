import Harvest.Proofs.Lease.Interruption

/-! What the withdrawal of the links of a rule does to each of them: open links are cancelled, completed ones are left
alone, and those that were cancelled before are counted and dated again. -/

namespace Harvest

/-- What becomes of a link when those of a rule are withdrawn. -/
inductive Link.Withdrawal (ruleId : String) (now : Int) : Link → Link → Prop
  | foreign {link : Link} (other : link.ruleId ≠ ruleId) : Withdrawal ruleId now link link
  | completed {link : Link} (own : link.ruleId = ruleId) (done : link.status = .completed) :
      Withdrawal ruleId now link link
  /-- A link that was cancelled before is only dated. -/
  | again {link : Link} (own : link.ruleId = ruleId) (before : link.status = .cancelled) :
      Withdrawal ruleId now link { link with updated := now }
  | cancelled {link : Link} (own : link.ruleId = ruleId) (isOpen : link.status = .active ∨ link.status = .running) :
      Withdrawal ruleId now link { link with status := .cancelled, worker := "", updated := now }

namespace Lease

/-- The links of a rule that are cancelled. -/
def cancelledLinks (ruleId : String) (links : List Link) : List Link :=
  links.filter fun link => link.ruleId = ruleId ∧ link.status = .cancelled

/-- The links of a rule that are not completed are the open ones and the cancelled ones. -/
theorem countP_incomplete (ruleId : String) (links : List Link) :
    links.countP (fun link => link.ruleId = ruleId ∧ link.status ≠ .completed) =
      (openLinks ruleId links).length + (cancelledLinks ruleId links).length := by
  -- Each link that is not completed is counted on exactly one of the two sides.
  induction links with
  | nil => rfl
  | cons link links ih =>
    rw [List.countP_cons, ih, openLinks, openLinks, cancelledLinks, cancelledLinks, List.filter_cons, List.filter_cons]
    by_cases own : link.ruleId = ruleId
    · cases status : link.status <;> simp [own] <;> omega
    · simp [own]

/-- Each link is withdrawn as its status says. -/
theorem forall₂_withdrawn {links : List Link} (consistent : ∀ link ∈ links, link.isConsistent = true)
    (ruleId : String) (now : Int) :
    List.Forall₂ (Link.Withdrawal ruleId now) links (withdrawn ruleId now links) := by
  rw [withdrawn, changeLinks, List.forall₂_map_right_iff, List.forall₂_same]
  intro link among
  by_cases own : link.ruleId = ruleId
  · cases status : link.status with
    | active => simpa [own] using .cancelled own (.inl status)
    | running => simpa [own] using .cancelled own (.inr status)
    | completed => simpa [own, status] using .completed own status
    | cancelled =>
      -- Such a link has no worker to lose.
      have free : link.worker = "" := by simpa [Link.isConsistent, status] using consistent link among
      have same : link.restamped .cancelled "" now = { link with updated := now } := by
        rw [Link.restamped, ← status, ← free]
      rw [if_pos ⟨own, by simp⟩, same]
      exact .again own status
  · simpa [own] using .foreign own

/-- As many links of a rule are not completed after a withdrawal as before it. -/
theorem countP_withdrawn (ruleId : String) (now : Int) (links : List Link) :
    (withdrawn ruleId now links).countP (fun link => link.ruleId = ruleId ∧ link.status ≠ .completed) =
      links.countP fun link => link.ruleId = ruleId ∧ link.status ≠ .completed := by
  -- A cancelled link is not completed either.
  rw [withdrawn, changeLinks, List.countP_map]
  refine List.countP_congr fun link _ => ?_
  rw [Function.comp_apply]
  split
  · rename_i incomplete
    simp [Link.restamped, incomplete]
  · rfl

/-- What a cancellation leaves of a ledger: the rule is cancelled, its links are withdrawn, and those of them that were
not completed are counted. If a call fails, the links are as they were. -/
inductive Ledger.Cancelling (mayFail : Prop) (ledger : Ledger) (ruleId : String) (now : Int) :
    Except StoreError Nat → Ledger → Prop
  | counted {after : Ledger}
      (became : after.toBook = ⟨stopped ruleId now ledger.rules, withdrawn ruleId now ledger.links⟩) :
      Cancelling mayFail ledger ruleId now
        (.ok ((openLinks ruleId ledger.links).length + (cancelledLinks ruleId ledger.links).length)) after
  | spared {reason : String} {after : Ledger} (may : mayFail) (links : after.links = ledger.links) :
      Cancelling mayFail ledger ruleId now (.error (.backend reason)) after

/-- What a generation leaves of the links of a ledger: they are as they were if it fails early. Otherwise those of the
rule are withdrawn, and active ones of the rule may have come in behind them. -/
inductive Ledger.Replacing (ledger : Ledger) (ruleId : String) (now : Int) :
    Except StoreError Nat → Ledger → Prop
  | spared {cause : StoreError} {after : Ledger} (links : after.links = ledger.links) :
      Replacing ledger ruleId now (.error cause) after
  | withdrawn {outcome : Except StoreError Nat} {after : Ledger} {added : List Link}
      (own : ∀ link ∈ added, link.ruleId = ruleId ∧ link.status = .active)
      (links : after.links = withdrawn ruleId now ledger.links ++ added) :
      Replacing ledger ruleId now outcome after

section Requests

open Operation

variable {name : Nat → String} {mayFail : Prop} {ledger : Ledger}

/-- The cancellation of a stored rule withdraws its links, unless a call fails. -/
theorem cancelRule_withdraws (valid : ledger.Valid) {rule : Rule} (stored : rule ∈ ledger.rules) (now : Instant) :
    Leads name mayFail (ledger.Cancelling mayFail rule.id now) (cancelRule now rule.id) ledger := by
  -- Three calls follow each other: the rule is found, then it is cancelled, and then its links are.
  refine leads_bind (leads_getRule valid (fun _ _ _ => ?_) (fun absent => absurd rfl (absent rule stored))
    fun may reason => .spared may rfl)
  refine leads_bind (leads_updateRules (fun rule' => rule'.chosen_id rule.id)
    (fun rule' => rule'.members_extend_cancelled now) (fun _ => ?_) fun may reason => .spared may rfl)
  refine leads_updateLinks (fun link => link.chosen_incomplete rule.id) (fun link => link.members_extend_stamp ..) ?_
    fun may reason => .spared may rfl
  rw [countP_incomplete]
  exact .counted rfl

/-- A generation that fails before the update of the links spares them, and any other withdraws those of its rule. -/
theorem generateLinks_withdraws (valid : ledger.Valid) (now : Instant) (ruleId : String) :
    Leads name mayFail (ledger.Replacing ruleId now) (generateLinks now ruleId) ledger := by
  refine leads_bind (leads_getRule valid (fun rule _ _ => ?_) (fun _ => .spared rfl) fun _ _ => .spared rfl)
  dsimp only [Further]
  by_cases unused : rule.status = .cancelled
  · rw [if_pos unused]
    exact leads_bind (leads_throw (.spared rfl))
  rw [if_neg unused]
  cases rule.pageUrls with
  | error cause => exact leads_throw (.spared rfl)
  | ok urls =>
    refine leads_bind (leads_updateLinks (fun link => link.chosen_incomplete ruleId)
      (fun link => link.members_extend_stamp ..) ?_ fun _ _ => .spared rfl)
    refine leads_bind (leads_newLinks fun added _ own => ?_)
    -- Until the new links come in, the old ones stand withdrawn alone.
    refine leads_bind (leads_insertLinks ?_ fun _ _ => .withdrawn (by simp) (List.append_nil _).symm)
    exact leads_bind (leads_updateRules (fun rule' => rule'.chosen_id ruleId)
      (fun rule' => rule'.members_extend_generated now) (fun _ => leads_pure (.withdrawn own rfl))
      fun _ _ => .withdrawn own rfl)

end Requests

/-- A link is left as it is, or it is cancelled and only dated. -/
def Link.Redated (now : Int) (link after : Link) : Prop :=
  after = link ∨ link.status = .cancelled ∧ after = { link with updated := now }

/-- A withdrawal of links of which none is open only dates them. -/
theorem redated_of_withdrawal {ruleId : String} {now : Int} {links after : List Link}
    (closed : openLinks ruleId links = []) (moves : List.Forall₂ (Link.Withdrawal ruleId now) links after) :
    List.Forall₂ (Link.Redated now) links after := by
  refine List.forall₂_iff_zip.mpr ⟨moves.length_eq, fun {link link'} among => ?_⟩
  have move := (List.forall₂_iff_zip.mp moves).2 among
  cases move with
  | foreign | completed => exact .inl rfl
  | again _ before => exact .inr ⟨before, rfl⟩
  | cancelled own isOpen =>
    -- Such a link would have been open.
    have shut := List.filter_eq_nil_iff.mp closed link (List.of_mem_zip among).1
    simp [own, isOpen] at shut

/-- What the withdrawal of links comes to, wherever a call fails. -/
structure Coordinator.Withdraws (name : Nat → String) (coordinator : Coordinator) (book : Book) : Prop where
  /-- A cancellation counts the links of its rule that were open or cancelled, and withdraws the links. If a call fails,
  no link changes. -/
  cancels : ∀ (now : Instant) (outages : List Outage) (rule : Rule), rule ∈ book.rules →
    ((coordinator.attempt name outages (cancelRule now rule.id)).1 =
        .ok ((openLinks rule.id book.links).length + (cancelledLinks rule.id book.links).length) ∧
      ∃ links : List Link, List.Forall₂ (Link.Withdrawal rule.id now) book.links links ∧
        (⟨stopped rule.id now book.rules, links⟩ : Book).Kept
          (coordinator.attempt name outages (cancelRule now rule.id)).2.store) ∨
    (outages ≠ [] ∧
      (∃ reason, (coordinator.attempt name outages (cancelRule now rule.id)).1 = .error (.backend reason)) ∧
      (coordinator.attempt name outages (cancelRule now rule.id)).2.store.documents links =
        coordinator.store.documents links)
  /-- A second cancellation gives the same count, and only dates the cancelled links again. -/
  repeats : ∀ (now later : Instant) (rule : Rule), rule ∈ book.rules →
    let once := coordinator.attempt name [] (cancelRule now rule.id)
    let twice := once.2.attempt name [] (cancelRule later rule.id)
    twice.1 = once.1 ∧ ∃ first second : List Link,
      once.2.store.documents links = first.map Link.members ∧
      twice.2.store.documents links = second.map Link.members ∧
      List.Forall₂ (Link.Redated later) first second
  /-- A generation withdraws the links of its rule and adds only active ones, or it fails and no link changes. -/
  replaces : ∀ (now : Instant) (outages : List Outage) (ruleId : String),
    (∃ old added : List Link,
      (coordinator.attempt name outages (generateLinks now ruleId)).2.store.documents links =
        (old ++ added).map Link.members ∧
      List.Forall₂ (Link.Withdrawal ruleId now) book.links old ∧
      ∀ link ∈ added, link.ruleId = ruleId ∧ link.status = .active) ∨
    ((∃ cause, (coordinator.attempt name outages (generateLinks now ruleId)).1 = .error cause) ∧
      (coordinator.attempt name outages (generateLinks now ruleId)).2.store.documents links =
        coordinator.store.documents links)

namespace Ledger.Reached

variable {name : Nat → String} {ledger : Ledger} {coordinator : Coordinator}

/-- A reached coordinator cancels a stored rule as its ledger says. -/
theorem cancelling (injective : Function.Injective name) (reached : ledger.Reached name coordinator) (now : Instant)
    (outages : List Outage) {rule : Rule} (stored : rule ∈ ledger.rules) :
    ∃ after : Ledger, after.Reached name (coordinator.attempt name outages (cancelRule now rule.id)).2 ∧
      ledger.Cancelling (outages ≠ []) rule.id now
        (coordinator.attempt name outages (cancelRule now rule.id)).1 after :=
  @attempt name ledger coordinator injective reached now outages (.cancelRule rule.id) _
    (cancelRule_withdraws reached.valid stored now)

/-- A cancellation that nothing disturbs leaves the rule cancelled and its links withdrawn. -/
theorem cancelled (injective : Function.Injective name) (reached : ledger.Reached name coordinator) (now : Instant)
    {rule : Rule} (stored : rule ∈ ledger.rules) :
    ∃ after : Ledger, after.Reached name (coordinator.attempt name [] (cancelRule now rule.id)).2 ∧
      (coordinator.attempt name [] (cancelRule now rule.id)).1 =
        .ok ((openLinks rule.id ledger.links).length + (cancelledLinks rule.id ledger.links).length) ∧
      after.toBook = ⟨stopped rule.id now ledger.rules, withdrawn rule.id now ledger.links⟩ := by
  -- Without an outage nothing can be spared.
  obtain ⟨after, reached', ended⟩ := reached.cancelling injective now [] stored
  generalize (coordinator.attempt name [] (cancelRule now rule.id)).1 = outcome at ended
  cases ended with
  | counted became => exact ⟨after, reached', rfl, became⟩
  | spared may => exact absurd rfl may

/-- A cancellation counts the same links once more after another one, and only dates them. -/
theorem repeats (injective : Function.Injective name) (reached : ledger.Reached name coordinator) (now later : Instant)
    {rule : Rule} (stored : rule ∈ ledger.rules) :
    ∃ after : Ledger,
      ((coordinator.attempt name [] (cancelRule now rule.id)).2.attempt name [] (cancelRule later rule.id)).1 =
        (coordinator.attempt name [] (cancelRule now rule.id)).1 ∧
      after.Reached name
        ((coordinator.attempt name [] (cancelRule now rule.id)).2.attempt name [] (cancelRule later rule.id)).2 ∧
      List.Forall₂ (Link.Redated later) (withdrawn rule.id now ledger.links) after.links := by
  obtain ⟨middle, reached', counted, became⟩ := reached.cancelled injective now stored
  have links : middle.links = withdrawn rule.id now ledger.links := congrArg Book.links became
  -- The rule is still there, under its identifier.
  obtain ⟨rule', stored', same⟩ : ∃ rule' ∈ middle.rules, rule'.id = rule.id := by
    rw [congrArg Book.rules became]
    exact ⟨_, List.mem_map_of_mem stored, by rw [if_pos rfl]⟩
  obtain ⟨after, reached'', counted', became'⟩ := reached'.cancelled injective later stored'
  rw [same] at reached'' counted' became'
  refine ⟨after, ?_, reached'', ?_⟩
  · rw [counted', counted, ← countP_incomplete, ← countP_incomplete, links, countP_withdrawn]
  · rw [congrArg Book.links became', ← links]
    refine redated_of_withdrawal ?_ (forall₂_withdrawn reached'.valid.consistent rule.id later)
    rw [links]
    exact openLinks_cancelled rule.id now ledger.links

/-- A reached coordinator withdraws links as its ledger says. -/
theorem withdraws (injective : Function.Injective name) (reached : ledger.Reached name coordinator) :
    coordinator.Withdraws name ledger.toBook where
  cancels now outages rule stored := by
    -- Each of the three parts is read off the ledger afterwards.
    obtain ⟨after, reached', ended⟩ := reached.cancelling injective now outages stored
    have kept := reached'.behind.kept
    generalize (coordinator.attempt name outages (cancelRule now rule.id)).1 = outcome at ended ⊢
    cases ended with
    | counted became =>
      rw [became] at kept
      exact .inl ⟨rfl, _, forall₂_withdrawn reached.valid.consistent rule.id now, kept⟩
    | spared may same =>
      exact .inr ⟨may, ⟨_, rfl⟩, by rw [reached.behind.kept.links, kept.links, same]⟩
  repeats now later rule stored := by
    obtain ⟨middle, reached', -, became⟩ := reached.cancelled injective now stored
    obtain ⟨after, counted, reached'', redated⟩ := reached.repeats injective now later stored
    have kept := reached'.behind.kept
    rw [became] at kept
    exact ⟨counted, _, after.links, kept.links, reached''.behind.kept.links, redated⟩
  -- A generation that comes to its end has withdrawn the links and added new ones.
  replaces now outages ruleId := by
    obtain ⟨after, reached', ended⟩ := @attempt name ledger coordinator injective reached now outages
      (.generateLinks ruleId) _ (generateLinks_withdraws reached.valid now ruleId)
    have kept := reached'.behind.kept
    change ledger.Replacing ruleId now (coordinator.attempt name outages (generateLinks now ruleId)).1 after at ended
    generalize (coordinator.attempt name outages (generateLinks now ruleId)).1 = outcome at ended ⊢
    cases ended with
    | spared same =>
      exact .inr ⟨⟨_, rfl⟩, by rw [reached.behind.kept.links]; exact kept.links.trans (by rw [same])⟩
    | @withdrawn _ _ added own links =>
      refine .inl ⟨_, added, ?_, forall₂_withdrawn reached.valid.consistent ruleId now, own⟩
      exact kept.links.trans (by rw [links])

end Ledger.Reached

namespace System

/-- In every state that operations can leave behind, a cancellation counts the links of a rule that are not completed
and cancels the open ones among them. Completed links do not change, and those that were cancelled before are only
dated. So it is in a generation, and in a second cancellation, which counts as many again. -/
theorem withdrawal_exact {name : Nat → String} (injective : Function.Injective name) (actions : List Action) :
    ∃ book : Book, book.Kept (after name actions).coordinator.store ∧ (book.rules.map Rule.id).Nodup ∧
      (after name actions).coordinator.Withdraws name book := by
  obtain ⟨ledger, reached⟩ := Ledger.Reached.exists_of_after injective actions
  exact ⟨ledger.toBook, reached.behind.kept, reached.valid.ruleIds, reached.withdraws injective⟩

/-- Ten milliseconds after noon. -/
def afternoon : Instant :=
  ⟨20, by decide⟩

/-- The leased link of the sample day is completed, and links are generated twice. -/
def sampleGenerations : List Action :=
  sampleDay.take 12 ++
    [.begin noon (.complete [""]), .advance 3,
      .begin noon (.generateLinks "r"), .advance 4, .advance 4, .advance 4, .advance 4, .advance 4,
      .begin noon (.generateLinks "r"), .advance 5, .advance 5, .advance 5, .advance 5, .advance 5]

/-- The link of one of the sample generations. -/
def generated (id : String) (status : LinkStatus) (now : Int) : Link :=
  { id, url := "u1", status, ruleId := "r", updated := now }

/-- Of a completed link, a cancelled one and an active one the cancellation counts two, and changes two. -/
theorem withdrawal_exact_sampleGenerations :
    (after Supply.strokes sampleGenerations).coordinator.store.documents links =
      [generated "" .completed noon, generated "|" .cancelled noon, generated "||" .active noon].map Link.members ∧
    ((after Supply.strokes sampleGenerations).coordinator.attempt Supply.strokes [] (cancelRule afternoon "r")).1 =
      .ok 2 ∧
    ((after Supply.strokes sampleGenerations).coordinator.attempt Supply.strokes []
        (cancelRule afternoon "r")).2.store.documents links =
      [generated "" .completed noon, generated "|" .cancelled afternoon, generated "||" .cancelled afternoon].map
        Link.members ∧
    ∃ book : Book, book.Kept (after Supply.strokes sampleGenerations).coordinator.store ∧
      (book.rules.map Rule.id).Nodup ∧
      (after Supply.strokes sampleGenerations).coordinator.Withdraws Supply.strokes book :=
  ⟨by rfl, by rfl, by rfl, withdrawal_exact Supply.strokes_injective sampleGenerations⟩

/-- A cancelled link is counted and dated again by a second cancellation, and dated by a generation. -/
theorem cancelled_counted_again :
    let once := (after Supply.strokes (sampleDay.take 8)).coordinator.attempt Supply.strokes [] (cancelRule noon "r")
    let twice := once.2.attempt Supply.strokes [] (cancelRule afternoon "r")
    once.1 = .ok 1 ∧ once.2.store.documents links = [(generated "" .cancelled noon).members] ∧
      twice.1 = .ok 1 ∧ twice.2.store.documents links = [(generated "" .cancelled afternoon).members] ∧
      noon.1 ≠ afternoon.1 ∧
    ((after Supply.strokes sampleGenerations).coordinator.store.documents links)[1]? =
        some (generated "|" .cancelled noon).members ∧
      (((after Supply.strokes sampleGenerations).coordinator.attempt Supply.strokes []
          (generateLinks afternoon "r")).2.store.documents links)[1]? =
        some (generated "|" .cancelled afternoon).members :=
  ⟨by rfl, by rfl, by rfl, by rfl, by decide, by rfl, by rfl⟩

end System

end Lease

end Harvest

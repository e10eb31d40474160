import Harvest.Proofs.Lease.Faring
import Harvest.Proofs.Lease.Generation

/-! Operations that are broken off by a call that fails. Nothing takes back what the calls before it have written, so
that an operation with two writes can stop between them. -/

namespace Harvest

/-- A rule without a placeholder is no failure of a call. -/
theorem Rule.ne_backend_of_pageUrls {rule : Rule} {cause : StoreError} (pages : rule.pageUrls = .error cause)
    (reason : String) : cause ≠ .backend reason := by
  -- The addresses fail for one reason only.
  unfold Rule.pageUrls at pages
  split at pages
  · cases pages
  · rw [← Except.error.inj pages]
    exact nofun

namespace Lease

/-- The first of some calls that fails, if one does: the reason, and the rules and links that it finds. Each of the
calls comes by its kind, with the rules and links that it leaves. -/
def breakOff (outages : List Outage) (before : Book) : List (String × Book) → Option (String × Book)
  | [] => none
  | (method, after) :: rest =>
    match Outage.strike method outages with
    | (some reason, _) => some (reason, before)
    | (none, left) => breakOff left after rest

section

variable {outages left : List Outage} {before after : Book} {method : String} {rest : List (String × Book)}

/-- A call that fails finds what the calls before it have left. -/
theorem breakOff_struck {reason : String} (struck : Outage.strike method outages = (some reason, left)) :
    breakOff outages before ((method, after) :: rest) = some (reason, before) := by
  simp only [breakOff, struck]

/-- After a call that succeeds one of the later ones may fail. -/
theorem breakOff_passed (passed : Outage.strike method outages = (none, left)) :
    breakOff outages before ((method, after) :: rest) = breakOff left after rest := by
  simp only [breakOff, passed]

end

/-- The rules after one of them was cancelled. -/
def stopped (ruleId : String) (now : Int) (rules : List Rule) : List Rule :=
  changeRules (fun rule => rule.id = ruleId) (fun rule => { rule with status := .cancelled, updated := now }) rules

namespace Book

variable (book : Book) (now : Int)

/-- The calls of a lease: links are read, claimed, and read again. -/
def leasing (ruleId worker : String) (size : Nat) : List (String × Book) :=
  let leased : Book := { book with links := handedOut ruleId worker size now book.links }
  [("find", book), ("update_many", leased), ("find", leased)]

/-- The addresses for which links of a rule are generated, none if there is no such rule. -/
def pages (ruleId : String) : List String :=
  match book.rules.find? (·.id = ruleId) with
  | some rule => rule.pageUrls.toOption.getD []
  | none => []

/-- A rule that is stored gives the addresses of its pages. -/
theorem pages_eq {book : Book} (unique : (book.rules.map Rule.id).Nodup) {rule : Rule} (stored : rule ∈ book.rules)
    {urls : List String} (pages : rule.pageUrls = .ok urls) : book.pages rule.id = urls := by
  obtain ⟨other, found⟩ : ∃ other, book.rules.find? (·.id = rule.id) = some other :=
    Option.isSome_iff_exists.mp (List.find?_isSome.mpr ⟨rule, stored, by simp⟩)
  have same : other.id = rule.id := by simpa using List.find?_some found
  -- There is no other rule of the name.
  obtain rfl := List.inj_on_of_nodup_map unique (List.mem_of_find?_eq_some found) stored same
  simp only [Book.pages, found, pages]
  rfl

/-- The calls of a generation: the rule is read, its old links are withdrawn, the new ones come in, and the rule is
dated. -/
def generating (ruleId : String) (added : List Link) : List (String × Book) :=
  let old : Book := { book with links := withdrawn ruleId now book.links }
  let filled : Book := { book with links := withdrawn ruleId now book.links ++ added }
  [("find", book), ("update_many", old), ("insert_many", filled),
    ("update_many", { filled with rules := dated ruleId now book.rules })]

/-- The calls of a cancellation: the rule is read and cancelled, and then its links are withdrawn. -/
def cancelling (ruleId : String) : List (String × Book) :=
  let cancelled : Book := { book with rules := stopped ruleId now book.rules }
  [("find", book), ("update_many", cancelled),
    ("update_many", { cancelled with links := withdrawn ruleId now book.links })]

end Book

/-- How an operation that makes some calls ends: it succeeds, or it refuses its arguments and has written nothing, or
one of its calls fails. Then all is as this call has found it. -/
inductive BrokenOff (outages : List Outage) (before : Book) (calls : List (String × Book)) :
    Except StoreError α → Book → Prop
  | succeeded {result : α} {after : Book} : BrokenOff outages before calls (.ok result) after
  | refused {cause : StoreError} (own : ∀ reason, cause ≠ .backend reason) :
      BrokenOff outages before calls (.error cause) before
  | failed {reason : String} {left : Book} (struck : breakOff outages before calls = some (reason, left)) :
      BrokenOff outages before calls (.error (.backend reason)) left

section Requests

open Operation

variable {name : Nat → String} {outages : List Outage} {ledger : Ledger}

/-- The cancellation of the links of a rule is one call. -/
theorem fares_cancelLinks {now : Int} {ruleId : String} {ends : Except StoreError Nat → Ledger → List Outage → Prop}
    (withdrew : ∀ count left, Outage.strike "update_many" outages = (none, left) →
      ends (.ok count) { ledger with links := withdrawn ruleId now ledger.links } left)
    (struck : ∀ reason left, Outage.strike "update_many" outages = (some reason, left) →
      ends (.error (.backend reason)) ledger left) :
    Fares name outages ends (cancelLinks now ruleId) ledger :=
  fares_call (leads_updateLinks (fun link => link.chosen_incomplete ruleId) (fun link => link.members_extend_stamp ..)
    (withdrew _) False.elim) struck

/-- A lease that fails at its last read has claimed its links. -/
theorem allocate_fares (valid : ledger.Valid) (unique : (ledger.links.map Link.id).Nodup) (now : Instant)
    (ruleId worker : String) (size : Nat) (outages : List Outage) :
    Fares name outages
      (fun outcome after _ => BrokenOff outages ledger.toBook (ledger.leasing now ruleId worker size) outcome
        after.toBook)
      (allocate now ruleId worker size) ledger := by
  unfold allocate
  dsimp only
  -- Without a worker the lease is refused, and without a size it is over, both before the first call.
  by_cases named : worker = ""
  · rw [if_pos named]
    exact fares_bind (fares_throw (.refused (by simp)))
  rw [if_neg named]
  by_cases empty : size = 0
  · rw [if_pos empty]
    exact fares_pure .succeeded
  -- The first call reads which links there are to lease.
  rw [if_neg empty, ← bind_assoc]
  refine fares_bind (fares_once (fun _ => quiet_decode _ _) (leads_listLinks valid.dated (fun left read => ?_)
    False.elim) fun reason left struck => .failed (breakOff_struck struck))
  rw [window_eq_batch]
  dsimp only [Further]
  split
  · exact fares_pure .succeeded
  -- The second call claims them, and they are claimed when the last one reads them again.
  refine fares_bind (fares_call (leads_updateLinks
    (fun link => link.chosen_named ((batch ruleId size ledger.links).map Link.id) .active)
    (fun link => link.members_extend_stamp ..) (fun left' claimed => ?_) False.elim)
    fun reason left' struck => .failed ((breakOff_passed read).trans (breakOff_struck struck)))
  rw [claimed_eq_handedOut unique]
  dsimp only [Further]
  refine fares_once (fun _ => quiet_decode _ _) (leads_listLinks (dated_changeLinks valid.dated .running worker now)
    (fun _ _ => .succeeded) False.elim) fun reason left'' struck => .failed ?_
  exact (breakOff_passed read).trans ((breakOff_passed claimed).trans (breakOff_struck struck))

/-- A generation that fails at one of its later calls has withdrawn the old links. -/
theorem generateLinks_fares (valid : ledger.Valid) (now : Instant) (ruleId : String) (outages : List Outage) :
    Fares name outages
      (fun outcome after _ => BrokenOff outages ledger.toBook
        (ledger.generating now ruleId (freshLinks name now ruleId ledger.minted (ledger.pages ruleId))) outcome
        after.toBook)
      (generateLinks now ruleId) ledger := by
  -- All that can be refused is refused before the first write.
  refine fares_bind (fares_getRule valid (fun rule among same left read => ?_)
    (fun _ _ _ => .refused (by simp)) fun reason left struck => .failed (breakOff_struck struck))
  dsimp only [Further]
  by_cases cancelled : rule.status = .cancelled
  · rw [if_pos cancelled]
    exact fares_bind (fares_throw (.refused (by simp)))
  rw [if_neg cancelled]
  cases pages : rule.pageUrls with
  | error cause => exact fares_throw (.refused (Rule.ne_backend_of_pageUrls pages))
  | ok urls =>
    subst same
    rw [Book.pages_eq valid.ruleIds among pages]
    -- Three writes follow, each of which finds what the ones before it have left.
    refine fares_bind (fares_cancelLinks (fun _ left' withdrew => ?_) fun reason left' struck =>
      .failed ((breakOff_passed read).trans (breakOff_struck struck)))
    dsimp only [Further]
    refine fares_bind (fares_quiet (quiet_newLinks _ _ _) (leads_freshLinks ?_))
    dsimp only [Further]
    refine fares_bind (fares_insertLinks (fun left'' filled => ?_) fun reason left'' struck =>
      .failed ((breakOff_passed read).trans ((breakOff_passed withdrew).trans (breakOff_struck struck))))
    dsimp only [Further]
    refine fares_bind (fares_call (leads_updateRules (fun rule' => rule'.chosen_id rule.id)
      (fun rule' => rule'.members_extend_generated now) (fun _ _ _ => ?_) False.elim)
      fun reason _ struck => .failed ?_)
    · dsimp only [Further]
      exact fares_pure .succeeded
    · exact (breakOff_passed read).trans ((breakOff_passed withdrew).trans
        ((breakOff_passed filled).trans (breakOff_struck struck)))

/-- A cancellation that fails at its last call has cancelled the rule. -/
theorem cancelRule_fares (valid : ledger.Valid) (now : Instant) (id : String) (outages : List Outage) :
    Fares name outages
      (fun outcome after _ => BrokenOff outages ledger.toBook (ledger.cancelling now id) outcome after.toBook)
      (cancelRule now id) ledger := by
  -- The rule is cancelled first, so that a call struck afterwards finds it cancelled.
  refine fares_bind (fares_getRule valid (fun rule among same left read => ?_)
    (fun _ _ _ => .refused (by simp)) fun reason left struck => .failed (breakOff_struck struck))
  dsimp only [Further]
  refine fares_bind (fares_call (leads_updateRules (fun rule => rule.chosen_id id)
    (fun rule => rule.members_extend_cancelled now) (fun _ left' cancelled => ?_) False.elim)
    fun reason left' struck => .failed ((breakOff_passed read).trans (breakOff_struck struck)))
  dsimp only [Further]
  refine fares_cancelLinks (fun _ _ _ => .succeeded) fun reason _ struck => .failed ?_
  exact (breakOff_passed read).trans ((breakOff_passed cancelled).trans (breakOff_struck struck))

end Requests

/-- How the requests with several calls end, wherever their calls fail. -/
structure Coordinator.BreaksOff (name : Nat → String) (coordinator : Coordinator) (ledger : Ledger) : Prop where
  lease : ∀ (now : Instant) (outages : List Outage) (ruleId worker : String) (size : Nat),
    ∃ after : Book, after.Kept (coordinator.attempt name outages (allocate now ruleId worker size)).2.store ∧
      BrokenOff outages ledger.toBook (ledger.leasing now ruleId worker size)
        (coordinator.attempt name outages (allocate now ruleId worker size)).1 after
  generation : ∀ (now : Instant) (outages : List Outage) (ruleId : String),
    ∃ after : Book, after.Kept (coordinator.attempt name outages (generateLinks now ruleId)).2.store ∧
      BrokenOff outages ledger.toBook
        (ledger.generating now ruleId (freshLinks name now ruleId ledger.minted (ledger.pages ruleId)))
        (coordinator.attempt name outages (generateLinks now ruleId)).1 after
  cancellation : ∀ (now : Instant) (outages : List Outage) (ruleId : String),
    ∃ after : Book, after.Kept (coordinator.attempt name outages (cancelRule now ruleId)).2.store ∧
      BrokenOff outages ledger.toBook (ledger.cancelling now ruleId)
        (coordinator.attempt name outages (cancelRule now ruleId)).1 after

/-- An operation that is run by a reached coordinator fares as it does by any other. -/
theorem Ledger.Reached.fares {name : Nat → String} {ledger : Ledger} {coordinator : Coordinator}
    (reached : ledger.Reached name coordinator) {outages : List Outage} {operation : Operation α}
    {ends : Except StoreError α → Book → Prop}
    (fared : Operation.Fares name outages (fun outcome after _ => ends outcome after.toBook) operation ledger) :
    ∃ after : Book, after.Kept (coordinator.attempt name outages operation).2.store ∧
      ends (coordinator.attempt name outages operation).1 after := by
  -- The outages to come make no difference to what stands behind the coordinator.
  obtain ⟨after, behind, ended⟩ := fared { coordinator with outages }
    ⟨reached.behind.kept, reached.behind.others, reached.behind.minted, fun _ => trivial⟩ rfl
  exact ⟨after.toBook, behind.kept, ended⟩

/-- A request of a reached coordinator that fails leaves what the struck call has found. -/
theorem Ledger.Reached.breaksOff {name : Nat → String} {ledger : Ledger} {coordinator : Coordinator}
    (reached : ledger.Reached name coordinator) : coordinator.BreaksOff name ledger where
  lease now outages ruleId worker size :=
    reached.fares (allocate_fares reached.valid reached.unique now ruleId worker size outages)
  generation now outages ruleId := reached.fares (generateLinks_fares reached.valid now ruleId outages)
  cancellation now outages ruleId := reached.fares (cancelRule_fares reached.valid now ruleId outages)

/-- Whichever call fails, the operation leaves the rules and links as they were if it fails. -/
def Coordinator.AllOrNothing (name : Nat → String) (coordinator : Coordinator) (operation : Operation α) : Prop :=
  ∀ (outage : Outage) (cause : StoreError), (coordinator.attempt name [outage] operation).1 = .error cause →
    (coordinator.attempt name [outage] operation).2.store.documents rules = coordinator.store.documents rules ∧
    (coordinator.attempt name [outage] operation).2.store.documents links = coordinator.store.documents links

namespace System

/-- In every state that operations can leave behind, and whichever calls fail, a lease, a generation or a cancellation
that fails has refused its arguments and written nothing, or it has written what its calls before the struck one
write. -/
theorem failures_keep_earlier_writes {name : Nat → String} (injective : Function.Injective name)
    (actions : List Action) :
    ∃ ledger : Ledger, ledger.Kept (after name actions).coordinator.store ∧
      ledger.minted = (after name actions).coordinator.minted ∧
      (after name actions).coordinator.BreaksOff name ledger := by
  obtain ⟨ledger, reached⟩ := Ledger.Reached.exists_of_after injective actions
  exact ⟨ledger, reached.behind.kept, reached.behind.minted.symm, reached.breaksOff⟩

/-- A lease whose last read fails is lost to its worker, although the link stays leased to it. -/
theorem failures_keep_earlier_writes_sampleDay :
    ((after Supply.strokes (sampleDay.take 8)).coordinator.attempt Supply.strokes [⟨"find", 1, "down"⟩]
      (allocate noon "r" "w" 1)).1 = .error (.backend "down") ∧
    ((after Supply.strokes (sampleDay.take 8)).coordinator.attempt Supply.strokes [⟨"find", 1, "down"⟩]
      (allocate noon "r" "w" 1)).2.store.documents links = [(sampleLink "w" noon).members] ∧
    ∃ ledger : Ledger, ledger.Kept (after Supply.strokes (sampleDay.take 8)).coordinator.store ∧
      ledger.minted = (after Supply.strokes (sampleDay.take 8)).coordinator.minted ∧
      (after Supply.strokes (sampleDay.take 8)).coordinator.BreaksOff Supply.strokes ledger :=
  ⟨by rfl, by rfl, failures_keep_earlier_writes Supply.strokes_injective (sampleDay.take 8)⟩

/-- A lease, a generation and a cancellation can each fail with one of two writes done: with the link leased, with
the link cancelled and none in its place, and with the rule cancelled and its link not. -/
theorem not_allOrNothing :
    ¬(after Supply.strokes (sampleDay.take 8)).coordinator.AllOrNothing Supply.strokes (allocate noon "r" "w" 1) ∧
    ¬(after Supply.strokes (sampleDay.take 8)).coordinator.AllOrNothing Supply.strokes (generateLinks noon "r") ∧
    ¬(after Supply.strokes (sampleDay.take 8)).coordinator.AllOrNothing Supply.strokes (cancelRule noon "r") := by
  -- The documents differ in their statuses.
  have apart {documents documents' : List Fields} (same : documents = documents') :
      documents.map (fun document => ((Json.object document).field "status").string?) =
        documents'.map fun document => ((Json.object document).field "status").string? :=
    congrArg _ same
  refine ⟨fun whole => ?_, fun whole => ?_, fun whole => ?_⟩
  · exact absurd (apart (whole ⟨"find", 1, "down"⟩ _ rfl).2) (by decide)
  · exact absurd (apart (whole ⟨"insert_many", 0, "down"⟩ _ rfl).2) (by decide)
  · exact absurd (apart (whole ⟨"update_many", 1, "down"⟩ _ rfl).1) (by decide)

end System

end Lease

end Harvest

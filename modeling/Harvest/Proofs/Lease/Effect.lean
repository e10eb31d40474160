import Harvest.Proofs.Lease.Attempt
import Harvest.Proofs.Lease.Recovery

/-! What a request that is worked on alone does to the rules and links of a ledger, however far it comes before a
call fails: one relation for all requests, and what their results tell. -/

namespace Harvest

open Lease

/-- How a stored rule may change while a request is worked on, unless it is replaced as a whole. -/
inductive Rule.Moves : Request → Rule → Rule → Prop
  | stays {request : Request} {rule : Rule} : Moves request rule rule
  | cancelled {rule : Rule} (now : Int) :
      Moves (.cancelRule rule.id) rule { rule with status := .cancelled, updated := now }
  | generated {rule : Rule} (now : Int) :
      Moves (.generateLinks rule.id) rule { rule with generated := some now }

/-- No step of the life cycle opens a link that is closed. -/
theorem Link.Moves.wasOpen {request : Lease.Request} {before after : Link} (moves : Moves request before after)
    (isOpen : after.status = .active ∨ after.status = .running) :
    before.status = .active ∨ before.status = .running := by
  -- By the step: a lease is given of an active link only, and taking back is done to a leased one.
  cases moves with
  | stays => exact isOpen
  | leased now active _ => exact .inl active
  | takenBack now leased => exact .inr leased
  | completed now _ wasOpen => exact wasOpen.symm
  | cancelled now _ _ => simp [Link.restamped] at isOpen

namespace Lease

/-- A rule is cancelled, and none of its links is open. -/
structure Book.Cancelled (book : Book) (id : String) : Prop where
  rule : ∃ rule ∈ book.rules, rule.id = id ∧ rule.status = .cancelled
  links : openLinks id book.links = []

/-- The identifier under which a rule is stored: its own, or the next one if it has none. -/
def storedId (name : Nat → String) (minted : Nat) (given : Rule) : String :=
  if given.id = "" then name minted else given.id

/-- The rule that is stored for a given one: under its identifier, or under the next one if it has none, and with
the time of the change. -/
def storedRule (name : Nat → String) (minted : Nat) (now : Int) (given : Rule) : Rule :=
  { given with id := storedId name minted given, updated := now }

/-- How storing a rule ends: it is put among the others, or it is refused for a missing field, or the call fails. -/
inductive Ledger.Upserts (name : Nat → String) (mayFail : Prop) (ledger : Ledger) (now : Int) (given : Rule) :
    Except StoreError Rule → Ledger → Prop
  | stores {after : Ledger} (complete : (storedRule name ledger.minted now given).missing = [])
      (book : after.toBook = ⟨putRule (storedRule name ledger.minted now given) ledger.rules, ledger.links⟩) :
      Upserts name mayFail ledger now given (.ok (storedRule name ledger.minted now given)) after
  | refuses {after : Ledger} (incomplete : (storedRule name ledger.minted now given).missing ≠ [])
      (book : after.toBook = ledger.toBook) :
      Upserts name mayFail ledger now given (.error (.invalidInput ("rule is missing required fields: " ++
        Text.join ", " (storedRule name ledger.minted now given).missing))) after
  | fails {after : Ledger} {reason : String} (may : mayFail) (book : after.toBook = ledger.toBook) :
      Upserts name mayFail ledger now given (.error (.backend reason)) after

/-- What becomes of the rules of a ledger: each of them moves, or a rule is put among them. -/
inductive RulesBecome (name : Nat → String) (before : Ledger) : Request → List Rule → Prop
  | moved {request : Request} {rules : List Rule} (moves : List.Forall₂ (Rule.Moves request) before.rules rules) :
      RulesBecome name before request rules
  | put {given : Rule} {fits : given.Fits} (now : Int) :
      RulesBecome name before (.upsertRule given fits)
        (putRule { given with id := storedId name before.minted given, updated := now } before.rules)

/-- What becomes of the links of a ledger: each of them moves, and only when the pages of a rule that is not
cancelled are generated, and none of its links is open any more, new ones come in behind them. -/
inductive LinksBecome (before : Ledger) : Request → List Link → Prop
  | moved {request : Request} {links : List Link} (moves : List.Forall₂ (Link.Moves request) before.links links) :
      LinksBecome before request links
  | generated {rule : Rule} {moved added : List Link} (stored : rule ∈ before.rules)
      (inUse : rule.status ≠ .cancelled)
      (moves : List.Forall₂ (Link.Moves (.generateLinks rule.id)) before.links moved)
      (closed : openLinks rule.id moved = []) (pages : rule.pageUrls = .ok (added.map Link.url))
      (own : ∀ link ∈ added, link.ruleId = rule.id) :
      LinksBecome before (.generateLinks rule.id) (moved ++ added)

/-- Rules that are left as they are. -/
theorem RulesBecome.unchanged (name : Nat → String) (ledger : Ledger) (request : Request) :
    RulesBecome name ledger request ledger.rules :=
  .moved (List.forall₂_same.mpr fun _ _ => .stays)

/-- Links that are left as they are. -/
theorem LinksBecome.unchanged (ledger : Ledger) (request : Request) : LinksBecome ledger request ledger.links :=
  .moved (List.forall₂_same.mpr fun _ _ => .stays)

/-- Every link is still there afterwards, as a link of the same rule. -/
theorem LinksBecome.exists_of_mem {before : Ledger} {request : Request} {links : List Link} {link : Link}
    (become : LinksBecome before request links) (among : link ∈ before.links) :
    ∃ later ∈ links, later.id = link.id ∧ later.ruleId = link.ruleId := by
  -- By what the request does: new links come behind those that move.
  cases become with
  | moved moves =>
    obtain ⟨later, member, move⟩ := exists_of_mem_before moves among
    exact ⟨later, member, move.identity.1, move.identity.2.2⟩
  | generated _ _ moves _ _ _ =>
    obtain ⟨later, member, move⟩ := exists_of_mem_before moves among
    exact ⟨later, List.mem_append_left _ member, move.identity.1, move.identity.2.2⟩

/-- What the result of a request tells about the ledger that it leaves: leased links are among the open ones of
their rule, and a rule whose cancellation succeeds is cancelled. -/
def Request.Tells : (request : Request) → Except StoreError request.Result → Ledger → Prop
  | allocate ruleId _ _, .ok leased, after => leased.Sublist (openLinks ruleId after.links)
  | cancelRule id, .ok _, after => after.Cancelled id
  | _, _, _ => True

/-- What a request does to a ledger, and what its outcome tells. -/
structure Request.Does (request : Request) (name : Nat → String) (before : Ledger)
    (outcome : Except StoreError request.Result) (after : Ledger) : Prop where
  rules : RulesBecome name before request after.rules
  links : LinksBecome before request after.links
  told : request.Tells outcome after

namespace Request.Does

variable {request : Request} {name : Nat → String} {ledger after : Ledger}
  {outcome : Except StoreError request.Result}

/-- A request that leaves the rules and the links as they are. -/
theorem nothing (told : request.Tells outcome ledger) : request.Does name ledger outcome ledger :=
  ⟨.unchanged name ledger request, .unchanged ledger request, told⟩

/-- A request that only changes the links which satisfy a condition. -/
theorem ofLinks {applies : Link → Prop} [DecidablePred applies] {change : Link → Link}
    (moves : ∀ link ∈ ledger.links, applies link → Link.Moves request link (change link))
    (told : request.Tells outcome { ledger with links := changeLinks applies change ledger.links }) :
    request.Does name ledger outcome { ledger with links := changeLinks applies change ledger.links } :=
  ⟨.unchanged name ledger request, .moved (changeLinks_moves moves), told⟩

end Request.Does

/-- A change of the rules that satisfy a condition moves each rule if those that satisfy it move. -/
theorem changeRules_moves {request : Request} {applies : Rule → Prop} [DecidablePred applies]
    {change : Rule → Rule} {rules : List Rule}
    (moves : ∀ rule ∈ rules, applies rule → Rule.Moves request rule (change rule)) :
    List.Forall₂ (Rule.Moves request) rules (changeRules applies change rules) := by
  -- Rule by rule, those that are not chosen stay.
  rw [changeRules, List.forall₂_map_right_iff, List.forall₂_same]
  intro rule among
  split
  · exact moves rule among ‹_›
  · exact .stays

/-- When links move, the addresses of the open ones of a rule are among those before, in the same order. -/
theorem openLinks_moves {request : Request} {links moved : List Link}
    (moves : List.Forall₂ (Link.Moves request) links moved) (ruleId : String) :
    ((openLinks ruleId moved).map Link.url).Sublist ((openLinks ruleId links).map Link.url) := by
  induction moves with
  | nil => exact List.Sublist.refl _
  | @cons before after _ _ move _ ih =>
    obtain ⟨-, sameUrl, sameRule⟩ := move.identity
    unfold openLinks at ih ⊢
    -- A link that is open afterwards was so before, with the same address.
    by_cases isOpen : after.ruleId = ruleId ∧ (after.status = .active ∨ after.status = .running)
    · have wasOpen : before.ruleId = ruleId ∧ (before.status = .active ∨ before.status = .running) :=
        ⟨sameRule ▸ isOpen.1, move.wasOpen isOpen.2⟩
      rw [List.filter_cons_of_pos (by simpa using isOpen), List.filter_cons_of_pos (by simpa using wasOpen),
        List.map_cons, List.map_cons, sameUrl]
      exact ih.cons_cons _
    · rw [List.filter_cons_of_neg (by simpa using isOpen)]
      refine ih.trans (List.Sublist.map _ (List.Sublist.filter _ (List.sublist_cons_self _ _)))

/-- The open links among links and others behind them are the open ones of both. -/
theorem openLinks_append (ruleId : String) (links added : List Link) :
    openLinks ruleId (links ++ added) = openLinks ruleId links ++ openLinks ruleId added :=
  List.filter_append ..

/-- A rule has no open links among those of another one. -/
theorem openLinks_of_others {ruleId other : String} {links : List Link} (own : ∀ link ∈ links, link.ruleId = other)
    (differ : other ≠ ruleId) : openLinks ruleId links = [] := by
  -- A link would be of two rules.
  rw [openLinks, List.filter_eq_nil_iff]
  intro link member isOpen
  simp only [decide_eq_true_eq] at isOpen
  exact differ ((own link member).symm.trans isOpen.1)

/-- After its links that are not completed are cancelled, a rule has no open links. -/
theorem openLinks_cancelled (ruleId : String) (now : Int) (links : List Link) :
    openLinks ruleId (changeLinks (fun link => link.ruleId = ruleId ∧ link.status ≠ .completed)
      (fun link => link.restamped .cancelled "" now) links) = [] := by
  rw [openLinks, List.filter_eq_nil_iff]
  intro link among isOpen
  obtain ⟨before, -, rfl⟩ := List.mem_map.mp among
  -- A link of the rule is cancelled unless it is completed already.
  split at isOpen
  · simp [Link.restamped] at isOpen
  · rename_i kept
    simp only [decide_eq_true_eq] at isOpen
    refine kept ⟨isOpen.1, fun done => ?_⟩
    rcases isOpen.2 with active | leased
    · cases done.symm.trans active
    · cases done.symm.trans leased

/-- After links of a rule are claimed, those of them that a worker holds are open links of the rule. -/
theorem held_sublist_openLinks {links candidates : List Link} (unique : (links.map Link.id).Nodup) {ruleId : String}
    (own : ∀ link ∈ candidates, link ∈ links ∧ link.ruleId = ruleId) (worker : String) (now : Int) :
    let ids := candidates.map Link.id
    let claimed := changeLinks (fun link => link.id ∈ ids ∧ link.status = .active)
      (fun link => link.restamped .running worker now) links
    (claimed.filter fun link => Store.chosen [Filter.isOneOf "id" ids, Filter.isText "worker" worker,
      Filter.isText "status" LinkStatus.running.text] link.members).Sublist (openLinks ruleId claimed) := by
  intro ids claimed
  -- A claimed link has the identifier of a link of the rule, and no other link has it.
  have ofRule : ∀ link ∈ claimed, link.id ∈ ids → link.ruleId = ruleId := by
    intro link among named
    obtain ⟨before, member, rfl⟩ := List.mem_map.mp among
    obtain ⟨candidate, chosen, same⟩ := List.mem_map.mp named
    obtain ⟨there, itsRule⟩ := own candidate chosen
    split at same <;> split
    all_goals
      obtain rfl := List.inj_on_of_nodup_map unique there member same
      exact itsRule
  have holds : (claimed.filter fun link => Store.chosen [Filter.isOneOf "id" ids, Filter.isText "worker" worker,
      Filter.isText "status" LinkStatus.running.text] link.members) =
        (openLinks ruleId claimed).filter fun link => Store.chosen [Filter.isOneOf "id" ids,
          Filter.isText "worker" worker, Filter.isText "status" LinkStatus.running.text] link.members := by
    rw [openLinks, List.filter_filter]
    refine List.filter_congr fun link among => ?_
    rw [Bool.eq_iff_iff, Bool.and_eq_true, Link.chosen_held]
    refine ⟨fun held => ⟨held, ?_⟩, fun held => held.1⟩
    simp [ofRule link among held.1, held.2.2]
  rw [holds]
  exact List.filter_sublist

section Requests

open Operation

variable {name : Nat → String} {mayFail : Prop} {ledger : Ledger} {now : Instant}

/-- A rule with its identifier and time is checked before it comes to the store. -/
theorem checkedRule_upserts {given rule : Rule} (own : rule = storedRule name ledger.minted now given)
    (minted : Nat) :
    Leads name mayFail (ledger.Upserts name mayFail now given)
      (do
        match rule.validate with
        | .ok () => pure ()
        | .error cause => throw cause
        call (.upsertOne rules [Filter.isText "id" rule.id] rule.toJson)
        return rule) { ledger with minted } := by
  -- The check comes before the only call, which can fail for nothing but the store.
  subst own
  by_cases complete : (storedRule name ledger.minted now given).missing = []
  · have passed : (storedRule name ledger.minted now given).validate = .ok () := by simp [Rule.validate, complete]
    simp only [passed]
    refine leads_bind (leads_upsertRule (leads_pure ?_) fun may reason => .fails may rfl)
    exact .stores complete rfl
  · have refused : (storedRule name ledger.minted now given).validate = .error (.invalidInput
        ("rule is missing required fields: " ++ Text.join ", " (storedRule name ledger.minted now given).missing)) := by
      rw [Rule.validate, if_neg (by simpa using complete)]
    simp only [refused]
    exact leads_bind (leads_throw (.refuses complete rfl))

/-- Storing a rule ends in one of these ways. -/
theorem upsertRule_upserts (given : Rule) :
    Leads name mayFail (ledger.Upserts name mayFail now given) (upsertRule now given) ledger := by
  -- By whether the rule has an identifier; one that has none is given a fresh one first.
  unfold upsertRule
  by_cases unnamed : given.id = ""
  · rw [if_pos unnamed]
    refine leads_bind (leads_freshId (checkedRule_upserts ?_ (ledger.minted + 1)))
    rw [storedRule, storedId, if_pos unnamed]
  · rw [if_neg unnamed]
    refine leads_bind (leads_pure (checkedRule_upserts ?_ ledger.minted))
    rw [storedRule, storedId, if_neg unnamed]

/-- Storing a rule puts it under its own identifier, or under the next one if it has none. -/
theorem upsertRule_leads (given : Rule) (fits : given.Fits) :
    Leads name mayFail ((Request.upsertRule given fits).Does name ledger) (upsertRule now given) ledger := by
  refine (upsertRule_upserts given).imp fun outcome after upserts => ?_
  -- Without the rule among the others the book is as it was.
  have unchanged (book : after.toBook = ledger.toBook) :
      (Request.upsertRule given fits).Does name ledger outcome after := by
    obtain ⟨rules, links⟩ := Book.mk.inj book
    exact ⟨rules ▸ .unchanged name ledger _, links ▸ .unchanged ledger _, trivial⟩
  cases upserts with
  | stores complete book =>
    obtain ⟨rules, links⟩ := Book.mk.inj book
    exact ⟨rules ▸ .put now.1, links ▸ .unchanged ledger _, trivial⟩
  | refuses incomplete book => exact unchanged book
  | fails may book => exact unchanged book

/-- Cancelling a rule first cancels the rule itself and then its links that are not completed. -/
theorem cancelRule_leads (valid : ledger.Valid) (id : String) :
    Leads name mayFail ((Request.cancelRule id).Does name ledger) (cancelRule now id) ledger := by
  have moves := @changeRules_moves (.cancelRule id) (fun rule => rule.id = id) _
    (fun rule => { rule with status := .cancelled, updated := now.1 }) ledger.rules
    (by rintro rule - rfl; exact .cancelled now.1)
  have linksMove := @changeLinks_moves (.cancelRule id) (fun link => link.ruleId = id ∧ link.status ≠ .completed) _
    (fun link => link.restamped .cancelled "" now) ledger.links
    (by rintro link - ⟨rfl, incomplete⟩; exact .cancelled now rfl incomplete)
  refine leads_bind (leads_getRule valid (fun rule among same => ?_) (fun _ => .nothing trivial)
    fun _ reason => .nothing trivial)
  -- If the second update fails, the rule is cancelled and its links are not.
  refine leads_bind (leads_updateRules (fun rule => rule.chosen_id id)
    (fun rule => rule.members_extend_cancelled now) (fun count => ?_) fun _ reason => .nothing trivial)
  refine leads_updateLinks (fun link => link.chosen_incomplete id) (fun link => link.members_extend_stamp ..) ?_
    fun _ reason => ⟨.moved moves, .unchanged ledger _, trivial⟩
  refine ⟨.moved moves, .moved linksMove, ⟨?_, openLinks_cancelled id now ledger.links⟩⟩
  -- The rule that was found is the one that is cancelled.
  refine ⟨{ rule with status := .cancelled, updated := now.1 }, List.mem_map.mpr ⟨rule, among, ?_⟩, same, rfl⟩
  exact if_pos same

/-- Generating links cancels the old ones, adds the new ones and dates the rule. -/
theorem generateLinks_leads (valid : ledger.Valid) (ruleId : String) :
    Leads name mayFail ((Request.generateLinks ruleId).Does name ledger) (generateLinks now ruleId) ledger := by
  refine leads_bind (leads_getRule valid (fun rule among same => ?_) (fun _ => .nothing trivial)
    fun _ reason => .nothing trivial)
  subst same
  dsimp only [Further]
  by_cases cancelled : rule.status = .cancelled
  · rw [if_pos cancelled]
    exact leads_bind (leads_throw (.nothing trivial))
  rw [if_neg cancelled]
  cases pages : rule.pageUrls with
  | error cause => exact leads_throw (.nothing trivial)
  | ok urls =>
    have linksMove := @changeLinks_moves (.generateLinks rule.id)
      (fun link => link.ruleId = rule.id ∧ link.status ≠ .completed) _
      (fun link => link.restamped .cancelled "" now) ledger.links
      (by rintro link - ⟨own, incomplete⟩; exact .cancelled now own.symm incomplete)
    have rulesStay := RulesBecome.unchanged name ledger (.generateLinks rule.id)
    refine leads_bind (leads_updateLinks (fun link => link.chosen_incomplete rule.id)
      (fun link => link.members_extend_stamp ..) ?_ fun _ reason => .nothing trivial)
    refine leads_bind (leads_newLinks fun added its own => ?_)
    -- Nothing but identifiers is lost if the new links do not come in.
    refine leads_bind (leads_insertLinks ?_ fun _ reason => ⟨rulesStay, .moved linksMove, trivial⟩)
    have come : LinksBecome ledger (.generateLinks rule.id) _ :=
      .generated among cancelled linksMove (openLinks_cancelled rule.id now ledger.links) (its ▸ pages)
        fun link member => (own link member).1
    refine leads_bind (leads_updateRules (fun rule' => rule'.chosen_id rule.id)
      (fun rule' => rule'.members_extend_generated now) (fun count => leads_pure ?_) fun _ reason => ?_)
    · refine ⟨.moved (changeRules_moves fun rule' _ same => ?_), come, trivial⟩
      rw [← same]
      exact .generated now
    · exact ⟨rulesStay, come, trivial⟩

/-- Leasing links claims active ones of the rule, and gives links that are leased. -/
theorem allocate_leads (valid : ledger.Valid) (unique : (ledger.links.map Link.id).Nodup)
    (ruleId worker : String) (size : Nat) :
    Leads name mayFail ((Request.allocate ruleId worker size).Does name ledger)
      (allocate now ruleId worker size) ledger := by
  unfold allocate
  dsimp only
  -- A lease without a worker is refused, and one of no links gives none.
  by_cases named : worker = ""
  · rw [if_pos named]
    exact leads_bind (leads_throw (.nothing trivial))
  rw [if_neg named]
  by_cases empty : size = 0
  · rw [if_pos empty]
    exact leads_pure (.nothing (List.nil_sublist _))
  rw [if_neg empty]
  refine leads_readLinks valid.dated ?_ fun _ reason => .nothing trivial
  have own : ∀ link ∈ (Page.first size).window (ledger.links.filter fun link => Store.chosen
      [Filter.isText "ruleID" ruleId, Filter.isText "status" LinkStatus.active.text] link.members),
        link ∈ ledger.links ∧ link.ruleId = ruleId := by
    intro link shown
    obtain ⟨among, chosen⟩ := List.mem_filter.mp (Page.mem_of_mem_window shown)
    exact ⟨among, ((link.chosen_ofRule ruleId .active).mp chosen).1⟩
  generalize (Page.first size).window (ledger.links.filter fun link => Store.chosen
    [Filter.isText "ruleID" ruleId, Filter.isText "status" LinkStatus.active.text] link.members) = candidates at own
  split
  · exact leads_pure (.nothing (List.nil_sublist _))
  -- Only links that were read are claimed, and these are of the rule.
  have moves : ∀ link ∈ ledger.links, link.id ∈ candidates.map Link.id ∧ link.status = .active →
      Link.Moves (.allocate ruleId worker size) link (link.restamped .running worker now) := by
    rintro link among ⟨claimed, active⟩
    obtain ⟨candidate, chosen, same⟩ := List.mem_map.mp claimed
    obtain ⟨there, rfl⟩ := own candidate chosen
    obtain rfl := List.inj_on_of_nodup_map unique there among same
    exact .leased now active named
  refine leads_bind (leads_updateLinks (fun link => link.chosen_named (candidates.map Link.id) .active)
    (fun link => link.members_extend_stamp ..) ?_ fun _ reason => .nothing trivial)
  -- If the last read fails, the links stay leased although nobody is told.
  refine leads_listLinks (dated_changeLinks valid.dated .running worker now) ?_
    fun _ reason => .ofLinks moves trivial
  exact .ofLinks moves (held_sublist_openLinks unique own worker now)

/-- Completing links completes those of them that are open. -/
theorem complete_leads (ids : List String) :
    Leads name mayFail ((Request.complete ids).Does name ledger) (complete now ids) ledger := by
  -- Without identifiers nothing is asked of the store at all.
  unfold complete
  split
  · exact leads_pure (.nothing trivial)
  · refine leads_updateLinks (fun link => link.chosen_open ids) (fun link => link.members_extend_stamp ..) ?_
      fun _ reason => .nothing trivial
    refine .ofLinks ?_ trivial
    rintro link - ⟨named, isOpen⟩
    exact .completed now named isOpen

/-- Taking leases back makes links active that are leased. -/
theorem reclaim_leads (staleAfter : Int) :
    Leads name mayFail ((Request.reclaim staleAfter).Does name ledger) (reclaim now staleAfter) ledger := by
  -- It is one update, of links that are leased.
  refine leads_updateLinks (fun link => link.chosen_stale (now - staleAfter))
    (fun link => link.members_extend_stamp ..) ?_ fun _ reason => .nothing trivial
  refine .ofLinks ?_ trivial
  rintro link - ⟨leased, -⟩
  exact .takenBack now leased

/-- Looking for the first active rule among candidates gives one that is stored as active, or none if no candidate
names such a rule; those that were looked at before name none. -/
theorem firstActive_leads {now : Int} (valid : ledger.Valid) (candidates checked : List String)
    (passed : ∀ rule ∈ ledger.rules, rule.id ∈ checked → rule.status ≠ .active)
    {ends : Except StoreError (Option Rule) → Ledger → Prop}
    (found : ∀ rule ∈ ledger.rules, rule.id ∈ candidates → rule.status = .active → ends (.ok (some rule)) ledger)
    (missing : (∀ rule ∈ ledger.rules, rule.id ∈ candidates → rule.status ≠ .active) → ends (.ok none) ledger)
    (fails : mayFail → ∀ reason, ends (.error (.backend reason)) ledger) :
    Leads name mayFail ends (firstActive now checked candidates) ledger := by
  -- One candidate is looked at after the other, until one is active or there are none left.
  induction candidates generalizing checked with
  | nil => exact leads_pure (missing (by simp))
  | cons id rest ih =>
    -- A candidate that names no active rule leaves the decision to those behind it.
    have onwards (checked : List String) (idle : ∀ rule ∈ ledger.rules, rule.id = id → rule.status ≠ .active)
        (passed : ∀ rule ∈ ledger.rules, rule.id ∈ checked → rule.status ≠ .active) :
        Leads name mayFail ends (firstActive now checked rest) ledger := by
      refine ih checked passed (fun rule among named => found rule among (List.mem_cons_of_mem _ named))
        fun none_left => missing fun rule among named => ?_
      rcases List.mem_cons.mp named with itself | later
      · exact idle rule among itself
      · exact none_left rule among later
    have passing (idle : ∀ rule ∈ ledger.rules, rule.id = id → rule.status ≠ .active) :
        Leads name mayFail ends (firstActive now (id :: checked) rest) ledger := by
      refine onwards (id :: checked) idle fun rule among named => ?_
      rcases List.mem_cons.mp named with itself | before
      · exact idle rule among itself
      · exact passed rule among before
    unfold firstActive
    split
    · rename_i before
      exact onwards checked (fun rule among same => passed rule among (by simpa [same] using before)) passed
    refine leads_bind (leads_tried (leads_getRule valid (fun rule among same => ?_)
      (fun absent => passing fun rule among same => absurd same (absent rule among))
      fun may reason => leads_throw (fails may reason)))
    dsimp only [Further]
    split
    · rename_i active
      exact leads_pure (found rule among (by simp [same]) active)
    · rename_i inactive
      refine passing fun other among' same' => ?_
      -- No other rule has the name of the one that was read.
      obtain rfl := List.inj_on_of_nodup_map valid.ruleIds among' among (same'.trans same.symm)
      exact inactive

/-- Selecting a rule changes nothing. -/
theorem selectRule_leads (valid : ledger.Valid) (sample : Nat) (shuffle : List String → List String)
    (wanted : Option String) :
    Leads name mayFail ((Request.selectRule sample shuffle wanted).Does name ledger)
      (selectRule now sample shuffle wanted) ledger := by
  -- It only reads: the rule that is wanted, or links and the rules they are of.
  unfold selectRule
  split
  · exact leads_bind (leads_getRule valid (fun rule _ _ => leads_pure (.nothing trivial))
      (fun _ => .nothing trivial) fun _ reason => .nothing trivial)
  · exact leads_readLinks valid.dated (firstActive_leads valid _ [] (by simp) (fun _ _ _ _ => .nothing trivial)
      (fun _ => .nothing trivial) fun _ reason => .nothing trivial) fun _ reason => .nothing trivial

/-- Whatever a request is, and however far it comes, this is what it does. -/
theorem Request.operation_leads (valid : ledger.Valid) (unique : (ledger.links.map Link.id).Nodup)
    (request : Request) :
    Leads name mayFail (request.Does name ledger) (request.operation now) ledger := by
  -- By the request, each of which has a lemma of its own.
  cases request with
  | upsertRule rule fits => exact upsertRule_leads rule fits
  | getRule id =>
    exact leads_getRule valid (fun rule _ _ => .nothing trivial) (fun _ => .nothing trivial)
      fun _ reason => .nothing trivial
  | listRules page => exact leads_listRules valid.usable (.nothing trivial) fun _ reason => .nothing trivial
  | linksOf ruleId page => exact leads_listLinks valid.dated (.nothing trivial) fun _ reason => .nothing trivial
  | dueRules at_ =>
    exact leads_readRules valid.usable (leads_pure (.nothing trivial)) fun _ reason => .nothing trivial
  | cancelRule id => exact cancelRule_leads valid id
  | generateLinks ruleId => exact generateLinks_leads valid ruleId
  | allocate ruleId worker size => exact allocate_leads valid unique ruleId worker size
  | complete ids => exact complete_leads ids
  | reclaim staleAfter => exact reclaim_leads staleAfter
  | selectRule sample shuffle wanted => exact selectRule_leads valid sample shuffle wanted

end Requests

end Lease

end Harvest

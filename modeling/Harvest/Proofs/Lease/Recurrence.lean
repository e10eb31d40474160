import Harvest.Proofs.Lease.Timer

/-! How often the timer generates the links of a rule: at every tick at which it is due, and never again before its
seconds have passed. What comes in between two ticks, or between two turns, only cancels rules. -/

namespace Harvest

/-- Relations between lists compose as those between their entries do. -/
theorem forall₂_trans {related : α → α → Prop} {as bs cs : List α} (first : List.Forall₂ related as bs)
    (second : List.Forall₂ related bs cs) (composes : ∀ {a b c : α}, related a b → related b c → related a c) :
    List.Forall₂ related as cs := by
  -- By the first relation, entry by entry.
  induction first generalizing cs with
  | nil => exact second
  | cons head _ ih =>
    cases second with
    | cons head' tail' => exact .cons (composes head head') (ih tail')

namespace Rule

/-- What may become of a rule while errands are run: it stays, or it is cancelled if that is asked for. -/
inductive Withstands (asked : String → Prop) : Rule → Rule → Prop
  | stays {rule : Rule} : Withstands asked rule rule
  | cancelled {rule : Rule} (time : Int) (named : asked rule.id) :
      Withstands asked rule { rule with status := .cancelled, updated := time }

/-- What may become of a rule while the timer runs: it is cancelled, or dated, and never dated back. -/
structure Later (before after : Rule) : Prop where
  same : ∃ status updated generated, after = { before with status, updated, generated }
  dated : ∀ last ∈ before.generated, ∃ last' ∈ after.generated, last ≤ last'

variable {asked : String → Prop} {before middle after : Rule}

/-- A rule that withstands errands twice withstands all of them. -/
theorem Withstands.trans (first : Withstands asked before middle) (second : Withstands asked middle after) :
    Withstands asked before after := by
  -- A cancellation is not undone, and a second one says the same.
  cases second with
  | stays => exact first
  | cancelled time named =>
    cases first with
    | stays => exact .cancelled time named
    | cancelled _ named => exact .cancelled time named

/-- A task that dates no rule leaves a rule that withstands it. -/
theorem Moves.withstands {request : Lease.Request} (moves : Moves request before after)
    (errand : request.DatesNoRule) (asks : ∀ id, request = .cancelRule id → asked id) :
    Withstands asked before after := by
  -- By the step of the rule, where a generation is no errand.
  cases moves with
  | stays => exact .stays
  | cancelled now => exact .cancelled now (asks _ rfl)
  | generated now => exact errand.elim

/-- A rule that withstands errands keeps its name. -/
theorem Withstands.id_eq (withstands : Withstands asked before after) : after.id = before.id := by
  cases withstands <;> rfl

/-- Nothing has become of a rule yet. -/
theorem Later.rfl : before.Later before :=
  ⟨⟨_, _, _, Eq.refl _⟩, fun last generated => ⟨last, generated, Int.le_refl last⟩⟩

/-- Nothing has become of any rule yet. -/
theorem later_self (rules : List Rule) : List.Forall₂ Later rules rules :=
  List.forall₂_same.mpr fun _ _ => .rfl

/-- What comes after what comes later is later still. -/
theorem Later.trans (first : before.Later middle) (second : middle.Later after) : before.Later after := by
  -- The last generation of the first rule is not later than that of the second, and so on.
  obtain ⟨_, _, _, same⟩ := first.same
  obtain ⟨status, updated, generated, same'⟩ := second.same
  refine ⟨⟨status, updated, generated, by rw [same', same]⟩, fun last among => ?_⟩
  obtain ⟨last', among', since⟩ := first.dated last among
  obtain ⟨last'', among'', since'⟩ := second.dated last' among'
  exact ⟨last'', among'', Int.le_trans since since'⟩

/-- A rule that withstands errands is one that it may become later. -/
theorem Withstands.later (withstands : Withstands asked before after) : before.Later after := by
  -- Neither staying nor a cancellation changes the date.
  cases withstands with
  | stays => exact .rfl
  | cancelled time _ => exact ⟨⟨_, _, _, Eq.refl _⟩, fun last generated => ⟨last, generated, Int.le_refl last⟩⟩

/-- A rule that is dated when it is due, or later, is not dated back. -/
theorem FallsDue.later_dated {rule : Rule} {time now : Int} (due : rule.FallsDue time) (since : time ≤ now) :
    rule.Later { rule with generated := some now } := by
  -- The last generation was long enough ago for the rule to be due.
  refine ⟨⟨_, _, _, Eq.refl _⟩, fun last generated => ⟨now, Eq.refl _, ?_⟩⟩
  obtain ⟨positive, passed⟩ := due.2 last generated
  omega

end Rule

namespace Lease

/-- How a rule that was found to be due fares at its turn. -/
inductive Occasion.Fares (name : Nat → String) (tick : Tick) (occasion : Occasion) (book : Book) : Prop
  /-- One new link for each page comes in for those that are not completed, and the rule is dated. -/
  | generated {added : List Link} (stored : occasion.rule ∈ book.rules)
      (placed : Text.contains Rule.placeholder occasion.rule.linkPattern = true)
      (gave : occasion.outcome name = .ok occasion.rule.totalPages)
      (pages : occasion.rule.HasPages occasion.now added)
      (left : (⟨dated occasion.rule.id occasion.now book.rules,
        withdrawn occasion.rule.id occasion.now book.links ++ added⟩ : Book).Kept (occasion.after name).store)
  /-- A rule without a placeholder is refused. It stays due. -/
  | unplaced (stored : occasion.rule ∈ book.rules)
      (unplaced : Text.contains Rule.placeholder occasion.rule.linkPattern = false)
      (refused : ∃ cause, occasion.outcome name = .error cause)
      (unchanged : ∀ collection, (occasion.after name).store.documents collection =
        occasion.coordinator.store.documents collection)
      (due : ∀ time, tick.now ≤ time → occasion.rule.FallsDue time)
  /-- So is a rule that an errand has cancelled since it was found. -/
  | cancelled {time : Int} (asked : tick.Cancels occasion.rule.id)
      (stored : { occasion.rule with status := .cancelled, updated := time } ∈ book.rules)
      (refused : ∃ cause, occasion.outcome name = .error cause)
      (unchanged : ∀ collection, (occasion.after name).store.documents collection =
        occasion.coordinator.store.documents collection)

/-- What the rules of a book are after a turn: one of them is dated if its links were generated. -/
inductive Occasion.Leaves (name : Nat → String) (occasion : Occasion) (rules : List Rule) : List Rule → Prop
  | dated (stored : occasion.rule ∈ rules) : Leaves name occasion rules (dated occasion.rule.id occasion.now rules)
  | spared (failed : (occasion.outcome name).isOk = false) : Leaves name occasion rules rules

namespace Ledger.Reached

variable {name : Nat → String} {ledger : Ledger} {coordinator : Coordinator}

/-- Errands leave every rule, or cancel it. -/
theorem runErrands (injective : Function.Injective name) (reached : ledger.Reached name coordinator)
    (errands : List Errand) {asked : String → Prop} (asks : ∀ id, Cancels errands id → asked id) :
    ∃ after : Ledger, after.Reached name (coordinator.workOff name (errands.map Subtype.val)) ∧
      List.Forall₂ (Rule.Withstands asked) ledger.rules after.rules := by
  -- By the errands: each moves the rules, and none dates them.
  refine reached.workOff injective (fun after => List.Forall₂ (Rule.Withstands asked) ledger.rules after.rules) _
    (fun task among before after outcome does withstand => ?_) (List.forall₂_same.mpr fun _ _ => .stays)
  obtain ⟨errand, member, rfl⟩ := List.mem_map.mp among
  have become := does.rules
  have datesNone := errand.2
  have asks' : ∀ id, errand.1.request = .cancelRule id → asked id := fun id same => asks id ⟨errand, member, same⟩
  generalize errand.1.request = request at become datesNone asks'
  generalize after.rules = rules at become
  cases become with
  | moved moves =>
    have withstand' : List.Forall₂ (Rule.Withstands asked) before.rules rules :=
      moves.imp fun _ _ move => move.withstands datesNone asks'
    exact forall₂_trans withstand withstand' .trans
  | put now => exact datesNone.elim

/-- Where all documents are the same, so is the book. -/
theorem toBook_eq {after : Ledger} {coordinator' : Coordinator} (reached : ledger.Reached name coordinator)
    (reached' : after.Reached name coordinator')
    (unchanged : ∀ collection, coordinator'.store.documents collection = coordinator.store.documents collection) :
    after.toBook = ledger.toBook := by
  -- Documents tell the book that they are of.
  have kept : ledger.toBook.Kept coordinator'.store :=
    ⟨(unchanged rules).trans reached.behind.kept.rules, (unchanged links).trans reached.behind.kept.links⟩
  exact reached'.behind.kept.unique kept

/-- A turn is that of a request, so that a ledger stands behind the coordinator afterwards. -/
theorem afterTurn (injective : Function.Injective name) {occasion : Occasion}
    (reached : ledger.Reached name occasion.coordinator) :
    ∃ after : Ledger, after.Reached name (occasion.after name) := by
  -- A turn generates links, which is a request.
  have led := @Request.operation_leads name (([] : List Outage) ≠ []) ledger occasion.now reached.valid reached.unique
    (.generateLinks occasion.rule.id)
  obtain ⟨after, reached', -⟩ := @attempt name ledger occasion.coordinator injective reached occasion.now []
    (.generateLinks occasion.rule.id) _ led
  exact ⟨after, reached'⟩

/-- A rule whose links cannot be generated is refused at its turn, and nothing changes. -/
theorem refusesTurn (injective : Function.Injective name) {occasion : Occasion}
    (reached : ledger.Reached name occasion.coordinator)
    (unfit : ¬∃ rule ∈ ledger.rules, rule.id = occasion.rule.id ∧ rule.status = .active ∧
      Text.contains Rule.placeholder rule.linkPattern = true) :
    (∃ cause, occasion.outcome name = .error cause) ∧
      (∀ collection, (occasion.after name).store.documents collection =
        occasion.coordinator.store.documents collection) ∧
      ∃ after : Ledger, after.Reached name (occasion.after name) ∧ occasion.Leaves name ledger.rules after.rules := by
  -- The generation is refused, so that all documents stay and the book is the same.
  obtain ⟨⟨cause, gave, -⟩, unchanged⟩ := (reached.generates injective).refuses occasion.now occasion.rule.id unfit
  obtain ⟨after, reached'⟩ := reached.afterTurn injective
  -- No document has changed, so that the book is the same.
  have rules : after.rules = ledger.rules := congrArg Book.rules (reached.toBook_eq reached' unchanged)
  have failed : (occasion.outcome name).isOk = false := by
    rw [Occasion.outcome, gave]
    rfl
  refine ⟨⟨cause, gave⟩, unchanged, after, reached', ?_⟩
  rw [rules]
  exact .spared failed

/-- A rule that was due when it was found fares by what has become of it since then. -/
theorem hasTurn (injective : Function.Injective name) {tick : Tick} {occasion : Occasion}
    (reached : ledger.Reached name occasion.coordinator) (due : occasion.rule.FallsDue tick.now) {stored : Rule}
    (among : stored ∈ ledger.rules) (withstands : occasion.rule.Withstands tick.Cancels stored) :
    occasion.Fares name tick ledger.toBook ∧ ∃ after : Ledger, after.Reached name (occasion.after name) ∧
      occasion.Leaves name ledger.rules after.rules := by
  -- There is no other rule of the name.
  have only {rule : Rule} (member : rule ∈ ledger.rules) (named : rule.id = occasion.rule.id) : rule = stored :=
    List.inj_on_of_nodup_map reached.valid.ruleIds member among (named.trans withstands.id_eq.symm)
  cases withstands with
  | cancelled time asked =>
    obtain ⟨refused, unchanged, left⟩ := reached.refusesTurn injective fun ⟨rule, member, named, inUse, _⟩ => by
      rw [only member named] at inUse
      cases inUse
    exact ⟨.cancelled asked among refused unchanged, left⟩
  | stays =>
    by_cases placed : Text.contains Rule.placeholder occasion.rule.linkPattern = true
    · obtain ⟨gave, added, pages, -, kept, -⟩ :=
        (reached.generates injective).replaces occasion.now _ among due.1 placed
      obtain ⟨after, reached'⟩ := reached.afterTurn injective
      have rules : after.rules = dated occasion.rule.id occasion.now ledger.rules :=
        congrArg Book.rules (reached'.behind.kept.unique kept)
      refine ⟨.generated among placed gave pages kept, after, reached', ?_⟩
      rw [rules]
      exact .dated among
    · -- What is refused has not changed, so that it is as due as before.
      have unplaced := Bool.eq_false_iff.mpr placed
      obtain ⟨refused, unchanged, left⟩ := reached.refusesTurn injective fun ⟨rule, member, named, _, placed'⟩ => by
        rw [only member named] at placed'
        exact placed placed'
      exact ⟨.unplaced among unplaced refused unchanged fun time since => due.later since, left⟩

end Ledger.Reached

namespace Occasion.Leaves

variable {name : Nat → String} {occasion : Occasion} {rules rules' : List Rule}

/-- After a generation the rule has its date. -/
theorem dated_mem (leaves : occasion.Leaves name rules rules') (succeeded : (occasion.outcome name).isOk = true) :
    { occasion.rule with generated := some occasion.now.1 } ∈ rules' := by
  -- A turn that succeeds has dated its rule.
  cases leaves with
  | dated stored => exact List.mem_map.mpr ⟨_, stored, if_pos rfl⟩
  | spared failed => cases failed.symm.trans succeeded

/-- A turn leaves all other rules alone. -/
theorem mem_of_ne (leaves : occasion.Leaves name rules rules') {rule : Rule} (among : rule ∈ rules)
    (other : rule.id ≠ occasion.rule.id) : rule ∈ rules' := by
  -- Only the rule whose turn it is can be dated.
  cases leaves with
  | dated stored => exact List.mem_map.mpr ⟨rule, among, if_neg other⟩
  | spared failed => exact among

/-- A turn dates no rule back. -/
theorem later (leaves : occasion.Leaves name rules rules') (unique : (rules.map Rule.id).Nodup) {time : Int}
    (due : occasion.rule.FallsDue time) (since : time ≤ occasion.now) : List.Forall₂ Rule.Later rules rules' := by
  -- The rule whose turn it is was due before, and all others stay.
  cases leaves with
  | dated stored =>
    rw [Lease.dated, changeRules, List.forall₂_map_right_iff, List.forall₂_same]
    intro rule among
    split
    · rename_i named
      obtain rfl := List.inj_on_of_nodup_map unique among stored named
      exact due.later_dated since
    · exact .rfl
  | spared failed => exact Rule.later_self rules

end Occasion.Leaves

/-- What is known of turns: which rules had theirs, how they fared, and what the rules of the ledger are afterwards. -/
structure Tick.Served (name : Nat → String) (tick : Tick) (found : List Rule) (before after : Ledger)
    (served : List Occasion × Coordinator) : Prop where
  reached : after.Reached name served.2
  later : List.Forall₂ Rule.Later before.rules after.rules
  turns : served.1.map Occasion.rule = found
  fares : ∀ occasion ∈ served.1, tick.now ≤ occasion.now ∧
    ∃ book : Book, book.Kept occasion.coordinator.store ∧ occasion.Fares name tick book
  dated : ∀ occasion ∈ served.1, (occasion.outcome name).isOk = true →
    ∃ rule ∈ after.rules, { occasion.rule with generated := some occasion.now.1 }.Later rule

/-- What is known of a turn, after errands, and of those behind it is known of all of them. -/
theorem Tick.Served.cons {name : Nat → String} {tick : Tick} {found : List Rule} {before middle next after : Ledger}
    {served : List Occasion × Coordinator} {occasion : Occasion} (rest : tick.Served name found next after served)
    (errands : List.Forall₂ Rule.Later before.rules middle.rules)
    (turn : List.Forall₂ Rule.Later middle.rules next.rules) (leaves : occasion.Leaves name middle.rules next.rules)
    (fares : tick.now ≤ occasion.now ∧
      ∃ book : Book, book.Kept occasion.coordinator.store ∧ occasion.Fares name tick book) :
    tick.Served name (occasion.rule :: found) before after (occasion :: served.1, served.2) where
  reached := rest.reached
  later := forall₂_trans (forall₂_trans errands turn .trans) rest.later .trans
  turns := congrArg (occasion.rule :: ·) rest.turns
  fares := List.forall_mem_cons.mpr ⟨fares, rest.fares⟩
  dated := by
    -- The date of this turn lasts through those behind it.
    have lasts := fun succeeded => exists_of_mem_before rest.later (leaves.dated_mem succeeded)
    exact List.forall_mem_cons.mpr ⟨lasts, rest.dated⟩

/-- Rules keep their frequencies. -/
theorem short_of_later {rules rules' : List Rule} (short : ∀ rule ∈ rules, rule.frequency < Word.signBound)
    (later : List.Forall₂ Rule.Later rules rules') : ∀ rule ∈ rules', rule.frequency < Word.signBound := by
  -- A later rule differs in its status and its dates only.
  intro rule member
  obtain ⟨before, among, became⟩ := exists_of_mem_after later member
  obtain ⟨_, _, _, same⟩ := became.same
  rw [same]
  exact short before among

namespace Ledger.Reached

variable {name : Nat → String} {ledger : Ledger} {coordinator : Coordinator}

/-- Rules that are due have their turns one after the other, whatever becomes of those before them. -/
theorem serves (injective : Function.Injective name) (tick : Tick) {found : List Rule}
    (unique : (found.map Rule.id).Nodup) (due : ∀ rule ∈ found, rule.FallsDue tick.now) (position : Nat)
    (reached : ledger.Reached name coordinator)
    (withstand : ∀ rule ∈ found, ∃ stored ∈ ledger.rules, rule.Withstands tick.Cancels stored) :
    ∃ after : Ledger, tick.Served name found ledger after (tick.serve name position found coordinator) := by
  -- The rules that are left stay as they were found, or are cancelled: no turn before theirs touches them.
  induction found generalizing position ledger coordinator with
  | nil =>
    have none_there : (tick.serve name position [] coordinator).1 = [] := rfl
    exact ⟨ledger, reached, Rule.later_self ledger.rules, rfl, by simp [none_there], by simp [none_there]⟩
  | cons rule rest ih =>
    obtain ⟨notLater, unique'⟩ := List.nodup_cons.mp unique
    let occasion : Occasion :=
      ⟨rule, tick.turnAt position, coordinator.workOff name ((tick.errands position).map Subtype.val)⟩
    -- First come the errands, then the turn of this rule, and then those of the others.
    obtain ⟨middle, reached', withstood⟩ := reached.runErrands injective (tick.errands position)
      (fun id asks => (⟨position, asks⟩ : tick.Cancels id))
    have withstand' : ∀ other ∈ rule :: rest, ∃ stored ∈ middle.rules, other.Withstands tick.Cancels stored := by
      intro other among
      obtain ⟨stored, member, first⟩ := withstand other among
      obtain ⟨stored', member', second⟩ := exists_of_mem_before withstood member
      exact ⟨stored', member', first.trans second⟩
    obtain ⟨stored, among, withstands⟩ := withstand' rule List.mem_cons_self
    have dueNow : occasion.rule.FallsDue tick.now := due rule List.mem_cons_self
    obtain ⟨fares, next, reached'', leaves⟩ :=
      @hasTurn name middle injective tick occasion reached' dueNow stored among withstands
    obtain ⟨after, served⟩ := ih unique' (fun other member => due other (List.mem_cons_of_mem _ member))
      (position + 1) reached'' fun other member => by
        obtain ⟨stored, among, withstands⟩ := withstand' other (List.mem_cons_of_mem _ member)
        refine ⟨stored, leaves.mem_of_ne among fun same => notLater ?_, withstands⟩
        rw [withstands.id_eq] at same
        exact List.mem_map.mpr ⟨other, member, same⟩
    have turn := leaves.later reached'.valid.ruleIds dueNow (tick.notBefore position)
    exact ⟨after, served.cons (withstood.imp fun _ _ => Rule.Withstands.later) turn leaves
      ⟨tick.notBefore position, middle.toBook, reached'.behind.kept, fares⟩⟩

/-- At a tick the rules that are due have their turns. -/
theorem ticks (injective : Function.Injective name) (reached : ledger.Reached name coordinator)
    (short : ∀ rule ∈ ledger.rules, rule.frequency < Word.signBound) (tick : Tick) :
    (coordinator.attempt name [] (dueRules tick.now tick.now)).1 =
        .ok (ledger.rules.filter fun rule => rule.FallsDue tick.now) ∧
      ∃ after : Ledger, tick.Served name (ledger.rules.filter fun rule => rule.FallsDue tick.now) ledger after
        (tick.run name coordinator) := by
  -- Frequencies are short enough for the filter to see what is due, and each due rule is there once.
  obtain ⟨same, reached', finds, rfl⟩ := @attempt name ledger coordinator injective reached tick.now []
    (.dueRules tick.now) _ (dueRules_finds (by simp) reached.valid tick.now tick.now)
  have exact_due : (same.rules.filter fun rule => rule.isDue tick.now) =
      same.rules.filter fun rule => rule.FallsDue tick.now :=
    List.filter_congr fun rule among => Bool.eq_iff_iff.mpr (by
      rw [Rule.isDue_iff_of_lt (short rule among), decide_eq_true_eq])
  have found : (coordinator.attempt name [] (dueRules tick.now tick.now)).1 =
      .ok (same.rules.filter fun rule => rule.FallsDue tick.now) := by
    rw [← exact_due]
    exact finds
  refine ⟨found, ?_⟩
  rw [Tick.run, found]
  refine serves injective tick (reached.valid.ruleIds.sublist (List.filter_sublist.map Rule.id))
    (fun rule member => of_decide_eq_true (List.mem_filter.mp member).2) 0 reached' fun rule member => ?_
  exact ⟨rule, List.mem_of_mem_filter member, .stays⟩

/-- Whatever happens, rules are only cancelled and dated. -/
theorem undergoes (injective : Function.Injective name) (reached : ledger.Reached name coordinator)
    (short : ∀ rule ∈ ledger.rules, rule.frequency < Word.signBound) (happenings : List Happening) :
    ∃ after : Ledger, after.Reached name (coordinator.undergo name happenings) ∧
      List.Forall₂ Rule.Later ledger.rules after.rules := by
  -- The frequencies stay short, so that every tick finds the rules that are due.
  induction happenings generalizing ledger coordinator with
  | nil => exact ⟨ledger, reached, Rule.later_self ledger.rules⟩
  | cons happening rest ih =>
    have once : ∃ middle : Ledger, middle.Reached name (coordinator.happen name happening) ∧
        List.Forall₂ Rule.Later ledger.rules middle.rules := by
      cases happening with
      | errand errand =>
        obtain ⟨middle, reached', withstood⟩ := @runErrands name ledger coordinator injective reached [errand]
          (fun _ => True) fun _ _ => trivial
        exact ⟨middle, reached', withstood.imp fun _ _ => Rule.Withstands.later⟩
      | tick tick =>
        obtain ⟨-, middle, served⟩ := reached.ticks injective short tick
        exact ⟨middle, served.reached, served.later⟩
    obtain ⟨middle, reached', later⟩ := once
    obtain ⟨after, reached'', later'⟩ := ih reached' (short_of_later short later)
    exact ⟨after, reached'', forall₂_trans later later' .trans⟩

/-- No links of a rule are generated twice within its seconds. -/
theorem apart (injective : Function.Injective name) (reached : ledger.Reached name coordinator)
    (short : ∀ rule ∈ ledger.rules, rule.frequency < Word.signBound) {rule : Rule} {time : Int}
    (dated : ∃ stored ∈ ledger.rules, { rule with generated := some time }.Later stored) (tick : Tick)
    {occasion : Occasion} (among : occasion ∈ (tick.run name coordinator).1) (same : occasion.rule.id = rule.id) :
    occasion.rule.frequency = rule.frequency ∧ 0 < rule.frequency ∧
      1000 * rule.frequency ≤ (tick.now : Int) - time ∧ tick.now ≤ occasion.now := by
  obtain ⟨-, after, served⟩ := reached.ticks injective short tick
  have found : occasion.rule ∈ ledger.rules.filter fun rule => rule.FallsDue tick.now :=
    served.turns ▸ List.mem_map_of_mem among
  obtain ⟨member, due⟩ := List.mem_filter.mp found
  obtain ⟨stored, member', later⟩ := dated
  obtain ⟨status, updated, generated, kept⟩ := later.same
  obtain ⟨last, isLast, since⟩ := later.dated time rfl
  -- The rule that has its turn is the one that was dated, with the same frequency.
  have itself : occasion.rule = stored :=
    List.inj_on_of_nodup_map reached.valid.ruleIds member member' (same.trans (by rw [kept]))
  have frequency : stored.frequency = rule.frequency := by rw [kept]
  obtain ⟨positive, passed⟩ := (of_decide_eq_true due).2 last (itself ▸ isLast)
  rw [itself, frequency] at positive passed
  refine ⟨by rw [itself, frequency], positive, ?_, (served.fares occasion among).1⟩
  omega

end Ledger.Reached

/-- How a coordinator keeps the schedule of the rules in its book. -/
structure Coordinator.KeepsSchedule (name : Nat → String) (coordinator : Coordinator) (book : Book) : Prop where
  /-- At a tick every rule that is due has one turn, in the order in which they are stored, and no other has any. -/
  turns : ∀ tick : Tick, (tick.run name coordinator).1.map Occasion.rule =
    book.rules.filter fun rule => rule.FallsDue tick.now
  /-- A rule fares by what has become of it, and not by how others have fared before. -/
  fares : ∀ tick : Tick, ∀ occasion ∈ (tick.run name coordinator).1, tick.now ≤ occasion.now ∧
    ∃ book' : Book, book'.Kept occasion.coordinator.store ∧ occasion.Fares name tick book'
  /-- A tick returns the number of the turns that succeed, in which links are generated. -/
  returned : ∀ tick : Tick, tick.returned name coordinator =
    (.ok ((tick.run name coordinator).1.countP fun occasion => (occasion.outcome name).isOk),
      (tick.run name coordinator).2)
  /-- If nothing comes in between, the links of all rules that are due and have a placeholder are generated, and these
  are counted. -/
  counted : ∀ now : Instant,
    ((Tick.undisturbed now).run name coordinator).1.countP (fun occasion => (occasion.outcome name).isOk) =
      (book.rules.filter fun rule => rule.FallsDue now).countP fun rule =>
        Text.contains Rule.placeholder rule.linkPattern
  generates : ∀ now : Instant, coordinator.attempt name [] (generateDue now) =
    (.ok (((Tick.undisturbed now).run name coordinator).1.countP fun occasion => (occasion.outcome name).isOk),
      ((Tick.undisturbed now).run name coordinator).2)
  /-- After the links of a rule were generated, it has no turn at any tick before its seconds have passed, and none at
  all if it has no frequency. -/
  apart : ∀ tick : Tick, ∀ occasion ∈ (tick.run name coordinator).1, (occasion.outcome name).isOk = true →
    ∀ (happenings : List Happening) (tick' : Tick),
      ∀ occasion' ∈ (tick'.run name ((tick.run name coordinator).2.undergo name happenings)).1,
        occasion'.rule.id = occasion.rule.id →
          occasion'.rule.frequency = occasion.rule.frequency ∧ 0 < occasion.rule.frequency ∧
            1000 * occasion.rule.frequency ≤ (tick'.now : Int) - occasion.now ∧ tick'.now ≤ occasion'.now

/-- If nothing comes in between, the rules that are due and have a placeholder are those whose turns succeed. -/
theorem Occasion.Fares.isOk_eq {name : Nat → String} {now : Instant} {occasion : Occasion} {book : Book}
    (fares : occasion.Fares name (Tick.undisturbed now) book) :
    (occasion.outcome name).isOk = Text.contains Rule.placeholder occasion.rule.linkPattern := by
  -- By how the turn fares, of which a cancellation is excluded.
  cases fares with
  | generated _ placed gave _ _ =>
    rw [gave, placed]
    rfl
  | unplaced _ unplaced refused _ _ =>
    obtain ⟨cause, gave⟩ := refused
    rw [gave, unplaced]
    rfl
  | cancelled asked _ _ _ =>
    obtain ⟨_, _, none_there, _⟩ := asked
    cases none_there

/-- A reached coordinator keeps the schedule of its ledger. -/
theorem Ledger.Reached.keepsSchedule {name : Nat → String} {ledger : Ledger} {coordinator : Coordinator}
    (injective : Function.Injective name) (reached : ledger.Reached name coordinator)
    (short : ∀ rule ∈ ledger.rules, rule.frequency < Word.signBound) :
    coordinator.KeepsSchedule name ledger.toBook where
  turns tick := by
    obtain ⟨-, after, served⟩ := reached.ticks injective short tick
    exact served.turns
  fares tick := by
    obtain ⟨-, after, served⟩ := reached.ticks injective short tick
    exact served.fares
  returned tick := by
    obtain ⟨finds, -⟩ := reached.ticks injective short tick
    exact Tick.returned_eq finds
  counted now := by
    obtain ⟨-, after, served⟩ := reached.ticks injective short (Tick.undisturbed now)
    have turns := served.turns
    change _ = ledger.rules.filter fun rule => rule.FallsDue now at turns
    rw [← turns, List.countP_map]
    refine List.countP_congr fun occasion among => ?_
    obtain ⟨-, book, -, fares⟩ := served.fares occasion among
    rw [fares.isOk_eq, Function.comp_apply]
  generates now := by
    obtain ⟨finds, -⟩ := reached.ticks injective short (Tick.undisturbed now)
    exact (Tick.attempt_generateDue finds).trans (Tick.returned_eq finds)
  apart tick occasion among succeeded happenings tick' occasion' among' same := by
    obtain ⟨-, middle, served⟩ := reached.ticks injective short tick
    have short' := short_of_later short served.later
    obtain ⟨after, reached', later⟩ := served.reached.undergoes injective short' happenings
    obtain ⟨stored, member, dated⟩ := served.dated occasion among succeeded
    obtain ⟨stored', member', dated'⟩ := exists_of_mem_before later member
    -- What was dated at the turn has not been dated back since then.
    have since : { occasion.rule with generated := some occasion.now.1 }.Later stored' := dated.trans dated'
    exact reached'.apart injective (short_of_later short' later) ⟨stored', member', since⟩ tick' among' same

namespace System

/-- From every state that operations can leave behind, and whatever happens from then on while the timer runs, it
generates the links of each rule at the first tick at which the rule is due, and not again before its seconds have
passed. -/
theorem timer_keeps_schedule {name : Nat → String} (injective : Function.Injective name) (actions : List Action) :
    ∃ book : Book, book.Kept (after name actions).coordinator.store ∧
      ((∀ rule ∈ book.rules, rule.frequency < Word.signBound) → ∀ happenings : List Happening,
        ∃ book' : Book, book'.Kept ((after name actions).coordinator.undergo name happenings).store ∧
          List.Forall₂ Rule.Later book.rules book'.rules ∧
          ((after name actions).coordinator.undergo name happenings).KeepsSchedule name book') := by
  -- A ledger is behind the coordinator at the beginning, and one is after all that happens.
  obtain ⟨ledger, reached⟩ := Ledger.Reached.exists_of_after injective actions
  refine ⟨ledger.toBook, reached.behind.kept, fun short happenings => ?_⟩
  obtain ⟨after, reached', later⟩ := reached.undergoes injective short happenings
  exact ⟨after.toBook, reached'.behind.kept, later, reached'.keepsSchedule injective (short_of_later short later)⟩

/-- A tick at dawn, in which the rule of the sample day is cancelled before it has its turn. -/
def sampleTick : Tick where
  now := dawn
  turnAt := fun _ => noon
  notBefore := fun _ => by decide
  errands := fun _ => [⟨⟨dawn, [], .cancelRule "r"⟩, trivial⟩]

/-- The links of a rule without a frequency are generated at the first tick only, and not even then if the rule is
cancelled before its turn. -/
theorem timer_keeps_schedule_sampleDay :
    let coordinator := (after Supply.strokes (sampleDay.take 2)).coordinator
    let once := coordinator.attempt Supply.strokes [] (generateDue dawn)
    coordinator.store.documents rules = [sampleRule.members] ∧ sampleRule.frequency < Word.signBound ∧
      once.1 = .ok 1 ∧ (once.2.attempt Supply.strokes [] (generateDue noon)).1 = .ok 0 ∧
      (sampleTick.run Supply.strokes coordinator).1.map (fun occasion => (occasion.outcome Supply.strokes).isOk) =
        [false] ∧
    ∃ book : Book, book.Kept coordinator.store ∧
      ((∀ rule ∈ book.rules, rule.frequency < Word.signBound) → ∀ happenings : List Happening,
        ∃ book' : Book, book'.Kept (coordinator.undergo Supply.strokes happenings).store ∧
          List.Forall₂ Rule.Later book.rules book'.rules ∧
          (coordinator.undergo Supply.strokes happenings).KeepsSchedule Supply.strokes book') :=
  ⟨by rfl, by decide, by rfl, by rfl, by rfl, timer_keeps_schedule Supply.strokes_injective (sampleDay.take 2)⟩

end System

end Lease

end Harvest

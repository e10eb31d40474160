import Harvest.Proofs.Lease.Generation
import Harvest.Proofs.Lease.Spans

/-! The timer that generates links. At a tick it looks for the rules that are due, and these have their turns one after
the other. Errands may come in before every turn, as long as they neither store rules nor generate links themselves. -/

namespace Harvest.Lease

/-- The request neither stores a rule nor generates links, so that it dates no rule. -/
def Request.DatesNoRule : Request → Prop
  | .upsertRule _ _ | .generateLinks _ => False
  | _ => True

/-- A task that may come in while the timer runs. -/
abbrev Errand := { task : Task // task.request.DatesNoRule }

/-- One of the errands is to cancel the rule. -/
def Cancels (errands : List Errand) (id : String) : Prop :=
  ∃ errand ∈ errands, errand.1.request = .cancelRule id

/-- A tick of the timer: when it looks for rules that are due, and for each place in the order of these, when it is the
turn of the rule there and which errands come in before. Calls of errands may fail, those of the tick itself do not. -/
structure Tick where
  now : Instant
  turnAt : Nat → Instant
  notBefore : ∀ position, now.1 ≤ (turnAt position).1
  errands : Nat → List Errand

/-- A tick that takes no time, and nothing comes in. -/
def Tick.undisturbed (now : Instant) : Tick :=
  ⟨now, fun _ => now, fun _ => Int.le_refl _, fun _ => []⟩

/-- At some place of the tick an errand comes in to cancel the rule. -/
def Tick.Cancels (tick : Tick) (id : String) : Prop :=
  ∃ position, Lease.Cancels (tick.errands position) id

/-- A rule has its turn: what was found of it, when it is, and the coordinator then. -/
structure Occasion where
  rule : Rule
  now : Instant
  coordinator : Coordinator

namespace Occasion

variable (name : Nat → String) (occasion : Occasion)

/-- What the generation of the links gives. -/
def outcome : Except StoreError Nat :=
  (occasion.coordinator.attempt name [] (generateLinks occasion.now occasion.rule.id)).1

/-- The coordinator after the turn. -/
def after : Coordinator :=
  (occasion.coordinator.attempt name [] (generateLinks occasion.now occasion.rule.id)).2

end Occasion

namespace Tick

variable (name : Nat → String) (tick : Tick)

/-- The turns of the rules from a place on, and the coordinator after them. -/
def serve : Nat → List Rule → Coordinator → List Occasion × Coordinator
  | _, [], coordinator => ([], coordinator)
  | position, rule :: rest, coordinator =>
    let occasion : Occasion :=
      ⟨rule, tick.turnAt position, coordinator.workOff name ((tick.errands position).map Subtype.val)⟩
    let served := serve (position + 1) rest (occasion.after name)
    (occasion :: served.1, served.2)

/-- The turns of the rules that are found to be due, and the coordinator after them. -/
def run (coordinator : Coordinator) : List Occasion × Coordinator :=
  let looked := coordinator.attempt name [] (dueRules tick.now tick.now)
  tick.serve name 0 (looked.1.toOption.getD []) looked.2

/-- The turn of a rule at a place: errands come in, and its links are generated. -/
def turn (rule : Rule) : StateM (Nat × Coordinator) (Except StoreError Nat) := fun (position, coordinator) =>
  let occasion : Occasion :=
    ⟨rule, tick.turnAt position, coordinator.workOff name ((tick.errands position).map Subtype.val)⟩
  (occasion.outcome name, position + 1, occasion.after name)

/-- What the tick returns, and the coordinator after it: the rules that are found to be due have their turns in the
loop that counts them. -/
def returned (coordinator : Coordinator) : Except StoreError Nat × Coordinator :=
  match coordinator.attempt name [] (dueRules tick.now tick.now) with
  | (.ok found, coordinator) =>
    let counted := generateEach (tick.turn name) found (0, coordinator)
    (.ok counted.1, counted.2.2)
  | (.error cause, coordinator) => (.error cause, coordinator)

variable {name tick}

/-- The loop gives each rule its turn, and counts the turns that succeed. -/
theorem generateEach_turn (found : List Rule) (position : Nat) (coordinator : Coordinator) :
    generateEach (tick.turn name) found (position, coordinator) =
      ((tick.serve name position found coordinator).1.countP fun occasion => (occasion.outcome name).isOk,
        position + found.length, (tick.serve name position found coordinator).2) := by
  -- By the rules that are left, whose turns come after those before them.
  induction found generalizing position coordinator with
  | nil => rfl
  | cons rule rest ih =>
    let occasion : Occasion :=
      ⟨rule, tick.turnAt position, coordinator.workOff name ((tick.errands position).map Subtype.val)⟩
    have others := ih (position + 1) (occasion.after name)
    have whole : generateEach (tick.turn name) (rule :: rest) (position, coordinator) =
        let rested := generateEach (tick.turn name) rest (position + 1, occasion.after name)
        (rested.1 + (if (occasion.outcome name).isOk then 1 else 0), rested.2) := rfl
    rw [whole, others, serve, List.countP_cons, List.length_cons, Nat.add_right_comm, Nat.add_assoc]

/-- A tick returns the number of turns that succeed. -/
theorem returned_eq {coordinator : Coordinator} {found : List Rule}
    (finds : (coordinator.attempt name [] (dueRules tick.now tick.now)).1 = .ok found) :
    tick.returned name coordinator =
      (.ok ((tick.run name coordinator).1.countP fun occasion => (occasion.outcome name).isOk),
        (tick.run name coordinator).2) := by
  -- Counting the turns that succeed is what going through the rules does.
  unfold returned run
  generalize coordinator.attempt name [] (dueRules tick.now tick.now) = looked at finds
  obtain ⟨outcome, coordinator⟩ := looked
  obtain rfl : outcome = .ok found := finds
  dsimp only
  rw [generateEach_turn]
  rfl

end Tick

/-- What happens while the timer runs: errands come in between its ticks. -/
inductive Happening where
  | errand (errand : Errand)
  | tick (tick : Tick)

namespace Coordinator

/-- The coordinator after something has happened. -/
def happen (name : Nat → String) (coordinator : Coordinator) : Happening → Coordinator
  | .errand errand => coordinator.work name errand.1
  | .tick tick => (tick.run name coordinator).2

/-- The coordinator after all that has happened. -/
def undergo (name : Nat → String) (coordinator : Coordinator) (happenings : List Happening) : Coordinator :=
  happenings.foldl (happen name) coordinator

end Coordinator

section Undisturbed

variable {name : Nat → String} {coordinator : Coordinator}

/-- If no call is bound to fail, none is after an operation. -/
theorem Coordinator.outages_run (calm : coordinator.outages = []) (operation : Operation α) :
    (coordinator.run name operation).2.outages = [] := by
  -- By the course of the operation, question by question: no answer makes a call fail.
  have general : ∀ course : Course Question Question.Answer (Except StoreError α),
      (course.run (answer name) coordinator).2.outages = [] := by
    intro course
    induction course generalizing coordinator with
    | done result => exact calm
    | ask question rest ih =>
      refine ih _ ?_
      cases question with
      | store call =>
        simp only [perform, calm]
        rfl
      | freshId => exact calm
  exact general operation.run

/-- Where no call is bound to fail anyway, an attempt without failures is a run. -/
theorem Coordinator.attempt_of_calm (calm : coordinator.outages = []) (operation : Operation α) :
    coordinator.attempt name [] operation = coordinator.run name operation := by
  unfold attempt
  rw [← calm]

/-- Where nothing comes in, the turns of a tick are those of the operation that gives rules their turns. -/
theorem Tick.run_generateEach (now : Instant) (found : List Rule) (position : Nat)
    (calm : coordinator.outages = []) :
    coordinator.run name (generateEach (generateTurn now) found) =
      let counted := generateEach ((undisturbed now).turn name) found (position, coordinator)
      (.ok counted.1, counted.2.2) := by
  induction found generalizing coordinator position with
  | nil => rfl
  | cons rule rest ih =>
    let occasion : Occasion := ⟨rule, now, coordinator⟩
    have turn : coordinator.run name (generateLinks now rule.id) = (occasion.outcome name, occasion.after name) :=
      (Coordinator.attempt_of_calm calm _).symm
    have calm' : (occasion.after name).outages = [] := by
      rw [Occasion.after, Coordinator.attempt_of_calm calm]
      exact Coordinator.outages_run calm _
    have tried : coordinator.run name (generateTurn now rule) = (.ok (occasion.outcome name), occasion.after name) := by
      rw [generateTurn, Coordinator.run_tried, turn]
    -- The others have their turns whether or not this one has failed.
    rw [generateEach, Coordinator.run_bind_ok tried, Coordinator.run_bind_ok (ih (position + 1) calm')]
    rfl

/-- A tick at which nothing comes in returns what the whole generation does, and leaves what that does. -/
theorem Tick.attempt_generateDue {now : Instant} {found : List Rule}
    (finds : (coordinator.attempt name [] (dueRules now now)).1 = .ok found) :
    coordinator.attempt name [] (generateDue now) = (undisturbed now).returned name coordinator := by
  -- The rules that are due are found without an outage, and none comes after it.
  have looked : ({ coordinator with outages := [] } : Coordinator).run name (dueRules now now) =
      (.ok found, (coordinator.attempt name [] (dueRules now now)).2) := by
    rw [← finds]
    rfl
  have calm : (coordinator.attempt name [] (dueRules now now)).2.outages = [] := Coordinator.outages_run rfl _
  have looked' : coordinator.attempt name [] (dueRules (undisturbed now).now (undisturbed now).now) =
      (.ok found, (coordinator.attempt name [] (dueRules now now)).2) := looked
  rw [returned, looked', Coordinator.attempt, generateDue, Coordinator.run_bind_ok looked]
  exact Tick.run_generateEach now found 0 calm

end Undisturbed

section Look

open Operation

variable {name : Nat → String} {mayFail : Prop} {ledger : Ledger}

/-- A look for rules that are due finds exactly those, in the order in which they are stored. -/
theorem dueRules_finds (never : ¬mayFail) (valid : ledger.Valid) (now at_ : Int) :
    Leads name mayFail (fun outcome after => outcome = .ok (ledger.rules.filter (·.isDue at_)) ∧ after = ledger)
      (dueRules now at_) ledger := by
  refine leads_readRules valid.usable (leads_pure ⟨congrArg Except.ok ?_, rfl⟩) fun may => absurd may never
  have whole : Page.all.window (ledger.rules.filter fun rule =>
      Store.chosen [Filter.isText "status" RuleStatus.active.text] rule.members) =
        ledger.rules.filter fun rule => rule.status = .active :=
    List.filter_congr fun rule _ => Bool.eq_iff_iff.mpr (by rw [rule.chosen_status .active, decide_eq_true_eq])
  rw [whole, List.filter_filter]
  -- Only a rule in use is due.
  refine List.filter_congr fun rule _ => ?_
  rw [Bool.eq_iff_iff, Bool.and_eq_true, decide_eq_true_eq]
  exact and_iff_left_of_imp fun due => ((rule.isDue_iff at_).mp due).1

end Look

end Harvest.Lease

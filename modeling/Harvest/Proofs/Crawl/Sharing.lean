import Harvest.Crawl.Sink
import Harvest.Proofs.Crawl.Records
import Harvest.Proofs.Lease.Alike

/-! Crawls that put their results into the store in which a coordinator keeps rules and links. As long as no crawl is
of a rule that sends its records there, nobody who turns to the coordinator can tell that there are crawls. -/

namespace Harvest.Crawl

open Lease (Coordinates)

/-- The write that an answer of the sink is about, if the crawl waits for one. -/
def State.awaited (state : State) : Event → Option Writing
  | .flushed _ => state.background
  | .stored _ => state.lastWriting
  | _ => none

/-- An answer of the sink with another reply. -/
def Event.withReply (reply : Except StoreError Unit) : Event → Event
  | .flushed _ => .flushed reply
  | .stored _ => .stored reply
  | event => event

/-- Results change at most the collection that they are appended to. -/
theorem storeResults_keeps (name : Nat → String) (outages : List Outage) {collection aim : String}
    (other : collection ≠ aim) (coordinator : Lease.Coordinator) (documents : List Json) :
    (coordinator.attempt name outages (storeResults aim documents)).2.store.documents collection =
      coordinator.store.documents collection := by
  unfold storeResults
  split
  · rfl
  · -- The call fails without effect, or it is one of the other collection.
    obtain ⟨-, ⟨reason, -, unchanged⟩ | ⟨-, changed⟩⟩ :=
      Lease.Coordinator.perform_cases { coordinator with outages } (.insertMany aim documents)
    · exact congrArg (Store.documents · collection) unchanged
    · exact (congrArg (Store.documents · collection) changed).trans (Store.documents_perform_of_ne other _)

/-- Puts the results of a write into the store of a coordinator, while calls are bound to fail. -/
def putResults (name : Nat → String) (outages : List Outage) (target : String) (coordinator : Lease.Coordinator)
    (writing : Writing) : Except StoreError Unit × Lease.Coordinator :=
  let (collection, documents) := writing.request target
  let (reply, after) := coordinator.attempt name outages (storeResults collection documents)
  (reply, { coordinator with store := after.store })

/-- Coordinators at work over a store, and crawls that put their results into it. -/
structure Shared where
  system : Lease.System := {}
  crawls : List (Plan × State) := []

/-- What may happen next. -/
inductive Shared.Action where
  /-- Something happens at the coordinators, for a crawl or for others. -/
  | lease (action : Lease.Action)
  /-- A crawl begins. -/
  | crawl (plan : Plan)
  /-- Something happens around a crawl. If the sink answers a write, it is now that the results are put into the
  store, with the given calls bound to fail. -/
  | happen (index : Nat) (event : Event) (outages : List Outage)

/-- What happens at the coordinators. -/
def Shared.Action.lease? : Action → Option Lease.Action
  | lease action => some action
  | _ => none

namespace Shared

variable {name : Nat → String}

/-- An event as a crawl comes to know it, and the coordinator then. -/
def meet (name : Nat → String) (outages : List Outage) (plan : Plan) (state : State)
    (coordinator : Lease.Coordinator) (event : Event) : Event × Lease.Coordinator :=
  match state.awaited event with
  | some writing =>
    let (reply, coordinator) := putResults name outages plan.rule.target coordinator writing
    (event.withReply reply, coordinator)
  | none => (event, coordinator)

/-- What an action does. -/
def step (name : Nat → String) (shared : Shared) : Action → Shared
  | .lease action => { shared with system := shared.system.step name action }
  | .crawl plan => { shared with crawls := shared.crawls ++ [(plan, .start plan)] }
  | .happen index event outages =>
    match shared.crawls[index]? with
    | some (plan, state) =>
      let (event, coordinator) := meet name outages plan state shared.system.coordinator event
      { system := { shared.system with coordinator }
        crawls := shared.crawls.set index (plan, state.step plan event) }
    | none => shared

/-- What a series of actions leads to, from an empty store and without any crawls. -/
def after (name : Nat → String) (actions : List Action) : Shared :=
  actions.foldl (step name) {}

/-- One action more is one step more. -/
theorem after_append_singleton (actions : List Action) (action : Action) :
    after name (actions ++ [action]) = (after name actions).step name action := by
  simp [after]

/-- Do records of a rule with this target go elsewhere than among rules and links? -/
def Apart (plan : Plan) : Prop :=
  ¬Coordinates plan.rule.target

/-- Neither records nor diagnostics go among rules and links. -/
theorem Apart.request {plan : Plan} (apart : Apart plan) (writing : Writing) :
    ¬Coordinates (writing.request plan.rule.target).1 := by
  -- Records go to the target of the rule, and diagnostics to a collection of their own.
  cases writing with
  | records flush => exact apart
  | diagnostics flush => simp [Writing.request, Coordinates, layoutErrors, Lease.rules, Lease.links]

/-- Whatever a crawl comes to know, the coordinator it leaves is like the one it found. -/
theorem Apart.meet {plan : Plan} (apart : Apart plan) (outages : List Outage) (state : State)
    (coordinator : Lease.Coordinator) (event : Event) :
    (Shared.meet name outages plan state coordinator event).2.Alike coordinator := by
  unfold Shared.meet
  split
  · -- The write goes to a collection that is neither of the two.
    rename_i writing _
    refine ⟨fun collection owned => ?_, rfl, rfl⟩
    refine storeResults_keeps name outages (fun same => apart.request writing ?_) coordinator _
    rwa [same] at owned
  · exact ⟨fun _ _ => rfl, rfl, rfl⟩

/-- An event of a crawl changes neither rules nor links. -/
theorem step_happen {shared : Shared} (apart : ∀ crawl ∈ shared.crawls, Apart crawl.1) (index : Nat)
    (event : Event) (outages : List Outage) :
    (shared.step name (.happen index event outages)).system.coordinator.Alike shared.system.coordinator ∧
      (shared.step name (.happen index event outages)).system.sessions = shared.system.sessions := by
  -- A crawl that is not there does nothing.
  simp only [step]
  split
  · rename_i plan state present
    exact ⟨(apart _ (List.mem_of_getElem? present)).meet outages state shared.system.coordinator event, rfl⟩
  · exact ⟨⟨fun _ _ => rfl, rfl, rfl⟩, rfl⟩

/-- The coordinators are like those without crawls, and records go elsewhere. -/
structure Parallel (shared : Shared) (alone : Lease.System) : Prop where
  alike : shared.system.Alike alone
  apart : ∀ crawl ∈ shared.crawls, Apart crawl.1

/-- With every action the coordinators go on like those that know of no crawls. -/
theorem Parallel.step {shared : Shared} (injective : Function.Injective name) {actions : List Lease.Action}
    (parallel : shared.Parallel (.after name actions)) {action : Action}
    (elsewhere : ∀ plan, action = .crawl plan → Apart plan) :
    (shared.step name action).Parallel (.after name (actions ++ action.lease?.toList)) := by
  cases action with
  | lease action => exact ⟨parallel.alike.step injective action, parallel.apart⟩
  | crawl plan =>
    rw [show (Action.crawl plan).lease?.toList = [] from rfl, List.append_nil]
    -- A crawl that begins has nothing to write yet, and its records will go elsewhere.
    refine ⟨parallel.alike, fun crawl among => ?_⟩
    rcases List.mem_append.mp among with earlier | new
    · exact parallel.apart crawl earlier
    · rw [List.mem_singleton.mp new]
      exact elsewhere plan rfl
  | happen index event outages =>
    rw [show (Action.happen index event outages).lease?.toList = [] from rfl, List.append_nil]
    obtain ⟨coordinator, sessions⟩ := step_happen parallel.apart index event outages
    refine ⟨⟨coordinator.trans parallel.alike.coordinator, sessions.trans parallel.alike.sessions⟩, ?_⟩
    -- A crawl goes on with the plan that it has.
    intro crawl among
    simp only [Shared.step] at among
    split at among
    · rename_i plan state present
      rcases List.mem_or_eq_of_mem_set among with other | itself
      · exact parallel.apart crawl other
      · rw [itself]
        exact parallel.apart (plan, state) (List.mem_of_getElem? present)
    · exact parallel.apart crawl among

/-- All goes on like that over every series of actions. -/
theorem Parallel.reached (injective : Function.Injective name) (actions : List Action)
    (elsewhere : ∀ plan, .crawl plan ∈ actions → Apart plan) :
    (after name actions).Parallel (.after name (actions.filterMap Action.lease?)) := by
  induction actions using List.reverseRecOn with
  | nil => exact ⟨⟨⟨fun _ _ => rfl, rfl, rfl⟩, rfl⟩, by simp [after]⟩
  | append_singleton actions action ih =>
    have parallel := ih fun plan among => elsewhere plan (List.mem_append_left _ among)
    rw [after_append_singleton, List.filterMap_append]
    -- Without crawls the last action happens too, unless it is one of a crawl.
    have last : [action].filterMap Action.lease? = action.lease?.toList := by
      cases taken : action.lease? <;> simp [taken]
    rw [last]
    exact parallel.step injective fun plan same => elsewhere plan (by simp [same])

/-- The coordinators as they would be without crawls. -/
def alone (name : Nat → String) (actions : List Action) : Lease.System :=
  .after name (actions.filterMap Action.lease?)

/-- What coordinators keep and what they answer, as if nothing had ever happened around a crawl. -/
structure Spared (name : Nat → String) (actions : List Action) : Prop where
  /-- No event of a crawl changes a rule or a link. -/
  untouched : ∀ (index : Nat) (event : Event) (outages : List Outage) (collection : String),
    Coordinates collection →
      ((after name actions).step name (.happen index event outages)).system.coordinator.store.documents collection =
        (after name actions).system.coordinator.store.documents collection
  /-- The rules and links are those that would be there without crawls. -/
  documents : ∀ collection, Coordinates collection →
    (after name actions).system.coordinator.store.documents collection =
      (alone name actions).coordinator.store.documents collection
  /-- So are all requests that are being worked on, with what each of them has given or has yet to ask. -/
  sessions : (after name actions).system.sessions = (alone name actions).sessions
  /-- A request that is worked on next gives the same, whether or not calls fail. -/
  answers : ∀ (now : Instant) (outages : List Outage) (request : Lease.Request),
    ((after name actions).system.coordinator.attempt name outages (request.operation now)).1 =
      ((alone name actions).coordinator.attempt name outages (request.operation now)).1

/-- Crawls of rules whose records go elsewhere than among rules and links never change what coordinators keep and
answer, whatever happens around them and whenever their results are stored. -/
theorem crawls_spare_leases (injective : Function.Injective name) (actions : List Action)
    (elsewhere : ∀ plan, .crawl plan ∈ actions →
      plan.rule.target ≠ Lease.rules ∧ plan.rule.target ≠ Lease.links) : Spared name actions := by
  -- All that is claimed follows from running in parallel with a system without crawls.
  have parallel := Parallel.reached injective actions fun plan among aimed =>
    aimed.elim (elsewhere plan among).1 (elsewhere plan among).2
  exact {
    untouched := fun index event outages collection owned =>
      (step_happen parallel.apart index event outages).1.documents collection owned
    documents := parallel.alike.coordinator.documents
    sessions := parallel.alike.sessions
    answers := parallel.alike.attempt injective }

/-- A rule with one page, from which it takes a name for the records of its target. -/
def namingRule (target : String) : Rule :=
  { Lease.System.sampleRule with
    pattern := "\x7b\"name\": \x7b\"pattern\": \"p\", \"value\": \"text\"\x7d\x7d"
    target }

/-- The rule fits into its document. -/
theorem namingRule_fits (target : String) : (namingRule target).Fits :=
  { Lease.System.sampleRule_fits with }

/-- The plan of a crawl of the rule. -/
def namingPlan (target : String) : Plan :=
  match Plan.make (namingRule target) "w" {} {} with
  | .ok plan => plan
  | .error _ => default

/-- The rule is stored, its only link is generated and leased, and a crawl fetches its page and stores the record. -/
def namingActions (target : String) : List Action :=
  (([.begin Lease.System.dawn (.upsertRule (namingRule target) (namingRule_fits target)), .advance 0,
    .begin Lease.System.dawn (.generateLinks "r"), .advance 1, .advance 1, .advance 1, .advance 1, .advance 1,
    .begin Lease.System.dawn (.allocate "r" "w" 3), .advance 2, .advance 2, .advance 2] :
      List Lease.Action).map .lease) ++
    [.crawl (namingPlan target)] ++
    ([.leased (.ok [Lease.System.sampleLink "w" 0]), .clock false, .client true,
      .fetched 0 (.answered 200 [] "<p>x</p>") ⟨0, 0, "f"⟩, .clock true, .rested, .stored (.ok ())] :
      List Event).map fun event => .happen 0 event []

/-- A crawl of the rule whose records go to a collection of their own stores its record and disturbs nobody. -/
theorem crawls_spare_leases_naming :
    ((after Lease.Supply.strokes (namingActions "t")).system.coordinator.store.documents "t").length = 1 ∧
      (∀ plan, .crawl plan ∈ namingActions "t" →
        plan.rule.target ≠ Lease.rules ∧ plan.rule.target ≠ Lease.links) ∧
      Spared Lease.Supply.strokes (namingActions "t") := by
  -- The one crawl of the sample writes to a collection that is neither of the two.
  have elsewhere : ∀ plan, .crawl plan ∈ namingActions "t" →
      plan.rule.target ≠ Lease.rules ∧ plan.rule.target ≠ Lease.links := by
    intro plan among
    have own : plan = namingPlan "t" := by simpa [namingActions] using among
    rw [own]
    decide +kernel
  exact ⟨by decide +kernel, elsewhere, crawls_spare_leases Lease.Supply.strokes_injective _ elsewhere⟩

/-- A rule is accepted that sends its records among the rules. Its crawl leaves a record there that does not read as a
rule, and from then on the rules cannot be listed any more. -/
theorem crawl_breaks_listing :
    (({} : Lease.Coordinator).attempt Lease.Supply.strokes []
      (Lease.upsertRule Lease.System.dawn (namingRule Lease.rules))).1 = .ok (namingRule Lease.rules) ∧
    Plan.make (namingRule Lease.rules) "w" {} {} = .ok (namingPlan Lease.rules) ∧
    ((after Lease.Supply.strokes (namingActions Lease.rules)).system.coordinator.attempt Lease.Supply.strokes []
      (Lease.listRules Lease.System.dawn Page.all)).1 = .error (.serialization "") ∧
    ((alone Lease.Supply.strokes (namingActions Lease.rules)).coordinator.attempt Lease.Supply.strokes []
      (Lease.listRules Lease.System.dawn Page.all)).1 = .ok [{ namingRule Lease.rules with generated := some 0 }] ∧
    ¬Spared Lease.Supply.strokes (namingActions Lease.rules) := by
  have made : (Plan.make (namingRule Lease.rules) "w" {} {}).isOk = true := by decide +kernel
  have broken : ((after Lease.Supply.strokes (namingActions Lease.rules)).system.coordinator.attempt
      Lease.Supply.strokes [] (Lease.listRules Lease.System.dawn Page.all)).1 = .error (.serialization "") := by
    decide +kernel
  have whole : ((alone Lease.Supply.strokes (namingActions Lease.rules)).coordinator.attempt
      Lease.Supply.strokes [] (Lease.listRules Lease.System.dawn Page.all)).1 =
        .ok [{ namingRule Lease.rules with generated := some 0 }] := by
    decide +kernel
  refine ⟨by decide +kernel, ?_, broken, whole, fun spared => ?_⟩
  · unfold namingPlan
    cases planned : Plan.make (namingRule Lease.rules) "w" {} {} with
    | ok plan => rfl
    | error cause => simp [planned, Except.isOk, Except.toBool] at made
  · -- Whoever lists the rules can tell that a crawl was there.
    have same := spared.answers Lease.System.dawn [] (.listRules Page.all)
    simp only [Lease.Request.operation, broken, whole, reduceCtorEq] at same

end Shared

end Harvest.Crawl

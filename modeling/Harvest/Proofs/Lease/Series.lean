import Harvest.Proofs.Lease.Effect
import Harvest.Proofs.Lease.Soundness

/-! A coordinator that works requests off one after the other, each of them to its end or to the first call of it
that fails. What every request keeps, a whole series keeps. -/

namespace Harvest

/-- Links with the same document are the same. -/
theorem Link.members_injective : Function.Injective Link.members := by
  -- Each field of a link is written under its own name.
  intro link other same
  obtain ⟨_, _, _, _, _, _⟩ := link
  obtain ⟨_, _, _, _, _, _⟩ := other
  simpa [members, toJson, Json.fields, LinkStatus.text_inj] using same

/-- Rules with the same document are the same. -/
theorem Rule.members_injective : Function.Injective Rule.members := by
  intro rule other same
  have texts : Function.Injective (List.map Json.string) :=
    List.map_injective_iff.mpr fun _ _ alike => Json.string.inj alike
  obtain ⟨_, _, _, _, _, _, _, _, _, _, _, _, generated⟩ := rule
  obtain ⟨_, _, _, _, _, _, _, _, _, _, _, _, generated'⟩ := other
  -- Only the time of the last generation decides how many members there are.
  cases generated <;> cases generated' <;>
    simp_all [members, toJson, Json.fields, RuleStatus.text_inj, texts.eq_iff]

namespace Lease

/-- A store keeps one book only. -/
theorem Book.Kept.unique {book other : Book} {store : Store} (kept : book.Kept store) (kept' : other.Kept store) :
    book = other := by
  -- Both books write the same documents, each of which tells its rule or link.
  have sameRules : book.rules = other.rules :=
    List.map_injective_iff.mpr Rule.members_injective (kept.rules.symm.trans kept'.rules)
  have sameLinks : book.links = other.links :=
    List.map_injective_iff.mpr Link.members_injective (kept.links.symm.trans kept'.links)
  cases book
  cases other
  exact Book.mk.injEq .. ▸ ⟨sameRules, sameLinks⟩

/-- A request with the time at which it is worked on and the calls that are bound to fail then. -/
structure Task where
  now : Instant
  outages : List Outage := []
  request : Request

namespace Coordinator

/-- Runs an operation while calls are bound to fail. -/
def attempt (name : Nat → String) (coordinator : Coordinator) (outages : List Outage) (operation : Operation α) :
    Except StoreError α × Coordinator :=
  { coordinator with outages }.run name operation

/-- The coordinator after a task, whether or not the operation came to its end. -/
def work (name : Nat → String) (coordinator : Coordinator) (task : Task) : Coordinator :=
  (coordinator.attempt name task.outages (task.request.operation task.now)).2

/-- The coordinator after a series of tasks. -/
def workOff (name : Nat → String) (coordinator : Coordinator) (tasks : List Task) : Coordinator :=
  tasks.foldl (work name) coordinator

variable {name : Nat → String}

/-- One task more is worked on last. -/
theorem workOff_append_singleton (coordinator : Coordinator) (tasks : List Task) (task : Task) :
    coordinator.workOff name (tasks ++ [task]) = (coordinator.workOff name tasks).work name task := by
  simp [workOff]

/-- Tasks behind others are worked off by the coordinator after those. -/
theorem workOff_append (coordinator : Coordinator) (earlier later : List Task) :
    coordinator.workOff name (earlier ++ later) = (coordinator.workOff name earlier).workOff name later := by
  simp [workOff]

/-- Tasks behind another one are worked off by the coordinator after that one. -/
theorem workOff_append_cons (coordinator : Coordinator) (earlier : List Task) (task : Task) (later : List Task) :
    coordinator.workOff name (earlier ++ task :: later) =
      ((coordinator.workOff name earlier).work name task).workOff name later := by
  simp [workOff]

/-- A series of tasks is one of the ways in which actions can follow each other. -/
theorem workOff_reached (tasks : List Task) :
    ∃ actions, (System.after name actions).coordinator = workOff name {} tasks := by
  induction tasks using List.reverseRecOn with
  | nil => exact ⟨[], rfl⟩
  | append_singleton tasks task ih =>
    obtain ⟨actions, reached⟩ := ih
    -- The operation of the last task runs to its end without any other in between.
    obtain ⟨more, ran, -⟩ := @System.run_reached name actions task.now task.outages task.request
    refine ⟨actions ++ more, ?_⟩
    rw [ran, reached, workOff_append_singleton]
    rfl

end Coordinator

/-- Operations turn to the collections of rules and links only. -/
theorem Asks.collection {now : Instant} {request : Request} {known : Knowledge} {asked : StoreCall}
    (allowed : Asks now request known (.store asked)) : asked.collection = rules ∨ asked.collection = links := by
  cases allowed <;> first | exact .inl rfl | exact .inr rfl

/-- A ledger stands behind a coordinator that requests have left behind, worked on in any order and failing
anywhere. -/
structure Ledger.Reached (name : Nat → String) (ledger : Ledger) (coordinator : Coordinator) : Prop where
  reached : ∃ actions, (System.after name actions).coordinator = coordinator
  behind : ledger.Behind True coordinator
  valid : ledger.Valid
  unique : (ledger.links.map Link.id).Nodup

/-- No operation writes to any other collection than those of rules and links. -/
theorem System.others_empty {name : Nat → String} (injective : Function.Injective name) (actions : List Action)
    {collection : String} (noRules : collection ≠ rules) (noLinks : collection ≠ links) :
    (after name actions).coordinator.store.documents collection = [] := by
  induction actions using List.reverseRecOn with
  | nil => rfl
  | append_singleton actions action ih =>
    rw [after_append_singleton]
    obtain ⟨book, known, holds⟩ := Holds.reached injective actions
    cases action with
    | begin now request => exact ih
    | arm outages => exact ih
    | advance index =>
      rw [step]
      split
      · rename_i session present
        rw [System.advance]
        split
        · exact ih
        · rename_i question next asking
          -- What a session asks next is allowed to its request.
          have keeps := holds.courses index session present
          rw [asking] at keeps
          have allowed : Asks session.now session.request (known index) question := keeps.1
          cases question with
          | freshId => exact ih
          | store asked =>
            -- A call that fails changes nothing, and any other one changes its own collection.
            obtain ⟨-, ⟨reason, -, unchanged⟩ | ⟨-, changed⟩⟩ :=
              (after name actions).coordinator.perform_cases asked
            · exact (congrArg (Store.documents · collection) unchanged).trans ih
            · have other : collection ≠ asked.collection := fun same =>
                allowed.collection.elim (fun ruled => noRules (same.trans ruled))
                  fun linked => noLinks (same.trans linked)
              refine (congrArg (Store.documents · collection) changed).trans ?_
              rw [Store.documents_perform_of_ne other, ih]
      · exact ih

namespace Ledger.Reached

variable {name : Nat → String} {ledger : Ledger} {coordinator : Coordinator}

/-- A ledger stands behind every coordinator that requests leave behind. -/
theorem exists_of_after (injective : Function.Injective name) (actions : List Action) :
    ∃ ledger : Ledger, ledger.Reached name (System.after name actions).coordinator := by
  -- The book is the one that the invariant of the system gives.
  obtain ⟨book, known, holds⟩ := System.Holds.reached injective actions
  refine ⟨⟨book, (System.after name actions).coordinator.minted⟩, ⟨actions, rfl⟩, ?_, holds.valid,
    holds.supply.unique⟩
  exact ⟨holds.kept, fun _ noRules noLinks => System.others_empty injective actions noRules noLinks, rfl,
    fun _ => trivial⟩

/-- The ledger behind a coordinator that requests leave behind is sound, as all stores are that they leave behind. -/
theorem of_behind (injective : Function.Injective name) {mayFail : Prop} (behind : ledger.Behind mayFail coordinator)
    (left : ∃ actions, (System.after name actions).coordinator = coordinator) : ledger.Reached name coordinator := by
  -- The invariant gives a book, which is the same as the one behind the coordinator.
  obtain ⟨actions, rfl⟩ := left
  obtain ⟨book, known, holds⟩ := System.Holds.reached injective actions
  obtain rfl := holds.kept.unique behind.kept
  exact ⟨⟨actions, rfl⟩, ⟨behind.kept, behind.others, behind.minted, fun _ => trivial⟩, holds.valid,
    holds.supply.unique⟩

/-- Whatever calls are bound to fail next, the ledger stands behind the coordinator. -/
theorem armed (reached : ledger.Reached name coordinator) (outages : List Outage) :
    ledger.Behind (outages ≠ []) { coordinator with outages } :=
  ⟨reached.behind.kept, reached.behind.others, reached.behind.minted, id⟩

/-- A request that is worked on alone leads to a ledger as described, wherever calls fail. -/
theorem attempt (injective : Function.Injective name) (reached : ledger.Reached name coordinator) {now : Instant}
    {outages : List Outage} {request : Request} {ends : Except StoreError request.Result → Ledger → Prop}
    (led : Operation.Leads name (outages ≠ []) ends (request.operation now) ledger) :
    ∃ after : Ledger, after.Reached name (coordinator.attempt name outages (request.operation now)).2 ∧
      ends (coordinator.attempt name outages (request.operation now)).1 after := by
  -- The operation leads to a ledger, and it is carried out by actions of the system.
  obtain ⟨after, behind, ended⟩ := led _ (reached.armed outages)
  obtain ⟨actions, rfl⟩ := reached.reached
  obtain ⟨more, ran, -⟩ := @System.run_reached name actions now outages request
  exact ⟨after, of_behind injective behind ⟨actions ++ more, ran⟩, ended⟩

/-- What the requests of a series of tasks keep of a ledger, the whole series keeps. -/
theorem workOff (injective : Function.Injective name) (property : Ledger → Prop) (tasks : List Task)
    (keeps : ∀ task ∈ tasks, ∀ before after outcome,
      task.request.Does name before outcome after → property before → property after)
    (reached : ledger.Reached name coordinator) (holds : property ledger) :
    ∃ after : Ledger, after.Reached name (coordinator.workOff name tasks) ∧ property after := by
  -- By the tasks from the end, each of which is a request.
  induction tasks using List.reverseRecOn with
  | nil => exact ⟨ledger, reached, holds⟩
  | append_singleton tasks task ih =>
    obtain ⟨middle, reached', holds'⟩ := ih fun earlier member => keeps earlier (List.mem_append_left _ member)
    have led : Operation.Leads name (task.outages ≠ []) (task.request.Does name middle)
        (task.request.operation task.now) middle :=
      task.request.operation_leads reached'.valid reached'.unique
    obtain ⟨after, reached'', does⟩ := reached'.attempt injective led
    rw [Coordinator.workOff_append_singleton]
    exact ⟨after, reached'', keeps task (by simp) _ _ _ does holds'⟩

end Ledger.Reached

/-- A coordinator has worked off a series of tasks, and the ledger stands behind it. -/
structure Ledger.Tracks (name : Nat → String) (ledger : Ledger) (coordinator : Coordinator) : Prop where
  reached : ∃ tasks, coordinator = Coordinator.workOff name {} tasks
  behind : ledger.Behind True coordinator
  valid : ledger.Valid
  unique : (ledger.links.map Link.id).Nodup

/-- However calls fail, the operation leaves all documents as they are. It gives what is described, or it hears of a
call that is bound to fail. -/
def Coordinator.Answers (name : Nat → String) (coordinator : Coordinator) (operation : Operation α)
    (gives : Except StoreError α → Prop) : Prop :=
  ∀ outages, (∀ collection, (coordinator.attempt name outages operation).2.store.documents collection =
      coordinator.store.documents collection) ∧
    (gives (coordinator.attempt name outages operation).1 ∨
      outages ≠ [] ∧ ∃ reason, (coordinator.attempt name outages operation).1 = .error (.backend reason))

/-- The operation leaves the ledger as it is, and gives what is described unless a call fails that may. -/
def Idles (mayFail : Prop) (ledger : Ledger) (gives : Except StoreError α → Prop) (outcome : Except StoreError α)
    (after : Ledger) : Prop :=
  after = ledger ∧ (gives outcome ∨ mayFail ∧ ∃ reason, outcome = .error (.backend reason))

/-- An operation may end with the ledger as it is. -/
theorem idles_gives {mayFail : Prop} {ledger : Ledger} {gives : Except StoreError α → Prop}
    {outcome : Except StoreError α} (gave : gives outcome) : Idles mayFail ledger gives outcome ledger :=
  ⟨rfl, .inl gave⟩

/-- A call that fails leaves the ledger as it is. -/
theorem idles_fails {mayFail : Prop} {ledger : Ledger} {gives : Except StoreError α → Prop} (may : mayFail)
    (reason : String) : Idles mayFail ledger gives (.error (.backend reason)) ledger :=
  ⟨rfl, .inr ⟨may, reason, rfl⟩⟩

namespace Ledger.Tracks

variable {name : Nat → String} {ledger : Ledger} {coordinator : Coordinator}

/-- An empty ledger stands behind a coordinator that has done nothing yet. -/
theorem start : ({} : Ledger).Tracks name {} where
  reached := ⟨[], rfl⟩
  behind := ⟨.empty, fun _ _ _ => rfl, rfl, fun _ => trivial⟩
  valid := ⟨by simp, by simp, by simp, by simp⟩
  unique := by simp

/-- What a series of tasks leaves behind is reached by requests. -/
theorem reachedBy (tracks : ledger.Tracks name coordinator) : ledger.Reached name coordinator := by
  obtain ⟨tasks, rfl⟩ := tracks.reached
  exact ⟨Coordinator.workOff_reached tasks, tracks.behind, tracks.valid, tracks.unique⟩

/-- Whatever calls are bound to fail next, the ledger goes on to stand behind the coordinator. -/
theorem armed (tracks : ledger.Tracks name coordinator) (outages : List Outage) :
    ledger.Behind (outages ≠ []) { coordinator with outages } :=
  tracks.reachedBy.armed outages

/-- A task does to the ledger what its request does. -/
theorem work (injective : Function.Injective name) (tracks : ledger.Tracks name coordinator) (task : Task) :
    ∃ after : Ledger, after.Tracks name (coordinator.work name task) ∧
      task.request.Does name ledger
        (coordinator.attempt name task.outages (task.request.operation task.now)).1 after := by
  -- The task comes behind those that were worked on before.
  have led : Operation.Leads name (task.outages ≠ []) (task.request.Does name ledger)
      (task.request.operation task.now) ledger :=
    task.request.operation_leads tracks.valid tracks.unique
  obtain ⟨after, reached, does⟩ := tracks.reachedBy.attempt injective led
  obtain ⟨tasks, rfl⟩ := tracks.reached
  exact ⟨after, ⟨⟨tasks ++ [task], (Coordinator.workOff_append_singleton ..).symm⟩, reached.behind, reached.valid,
    reached.unique⟩, does⟩

/-- A task whose outcome is known does to the ledger what its request does with this outcome. -/
theorem work_ended (injective : Function.Injective name) (tracks : ledger.Tracks name coordinator) {now : Instant}
    {outages : List Outage} (request : Request) {outcome : Except StoreError request.Result}
    (ended : (coordinator.attempt name outages (request.operation now)).1 = outcome) :
    ∃ after : Ledger, after.Tracks name (coordinator.work name ⟨now, outages, request⟩) ∧
      request.Does name ledger outcome after := by
  subst ended
  exact tracks.work injective ⟨now, outages, request⟩

/-- What every request keeps of a ledger, a series of tasks keeps. -/
theorem workOff (injective : Function.Injective name) (property : Ledger → Prop)
    (keeps : ∀ {before after : Ledger} {request : Request} {outcome : Except StoreError request.Result},
      request.Does name before outcome after → property before → property after)
    (tracks : ledger.Tracks name coordinator) (holds : property ledger) (tasks : List Task) :
    ∃ after : Ledger, after.Tracks name (coordinator.workOff name tasks) ∧ property after := by
  -- Tasks are worked on from where the earlier ones have ended.
  obtain ⟨after, reached, holds'⟩ :=
    tracks.reachedBy.workOff injective property tasks (fun _ _ _ _ _ does => keeps does) holds
  obtain ⟨earlier, rfl⟩ := tracks.reached
  exact ⟨after, ⟨⟨earlier ++ tasks, (Coordinator.workOff_append ..).symm⟩, reached.behind, reached.valid,
    reached.unique⟩, holds'⟩

/-- A ledger stands behind every coordinator that has worked off a series of tasks. -/
theorem exists_of_workOff (injective : Function.Injective name) (tasks : List Task) :
    ∃ ledger : Ledger, ledger.Tracks name (Coordinator.workOff name {} tasks) := by
  obtain ⟨ledger, tracks, -⟩ := start.workOff injective (fun _ => True) (fun _ _ => trivial) trivial tasks
  exact ⟨ledger, tracks⟩

/-- An operation that leaves the ledger as it is leaves all documents as they are. -/
theorem answers {operation : Operation α} {gives : Except StoreError α → Prop}
    (tracks : ledger.Tracks name coordinator)
    (led : ∀ mayFail, operation.Leads name mayFail (Idles mayFail ledger gives) ledger) :
    coordinator.Answers name operation gives := by
  -- The same ledger stands behind the coordinator before and after.
  intro outages
  obtain ⟨after, behind, rfl, gave⟩ := led (outages ≠ []) _ (tracks.armed outages)
  exact ⟨tracks.behind.documents_eq behind rfl, gave⟩

end Ledger.Tracks

/-- The sample rule with another link pattern and two pages. -/
def changedRule : Rule :=
  { System.sampleRule with linkPattern := "\x7bpage\x7dv\x7bpage\x7d", totalPages := 2 }

/-- The changed rule fits into its document. -/
theorem changedRule_fits : changedRule.Fits :=
  ⟨by decide, by decide, by decide, by decide, by simp [changedRule, System.sampleRule]⟩

/-- The sample rule is stored, and its only link is generated and leased. Then the rule is changed, and its new links
come in with the second attempt. -/
def sampleSeries : List Task :=
  [⟨System.dawn, [], .upsertRule System.sampleRule System.sampleRule_fits⟩,
    ⟨System.dawn, [], .generateLinks "r"⟩,
    ⟨System.dawn, [], .allocate "r" "w" 3⟩,
    ⟨System.noon, [], .upsertRule changedRule changedRule_fits⟩,
    ⟨System.noon, [⟨"insert_many", 0, "down"⟩], .generateLinks "r"⟩,
    ⟨System.noon, [], .generateLinks "r"⟩]

end Lease

end Harvest

import Harvest.Proofs.Lease.Conduct
import Harvest.Proofs.Lease.Turn
import Mathlib.Data.List.Induction

/-! Any number of requests worked on at once over one store. Every question of every operation is a step
of its own, so that operations of one or several coordinators come in between each other in all orders. -/

namespace Harvest.Lease

/-- A request that is being worked on: since when, and what is still to be done for it. -/
structure Session where
  now : Instant
  request : Request
  course : Course Question Question.Answer (Except StoreError request.Result)

/-- A request that nothing was done for yet. -/
def Session.start (now : Instant) (request : Request) : Session :=
  ⟨now, request, (request.operation now).run⟩

/-- Is there nothing left to be asked for the request? -/
def Session.isDone (session : Session) : Bool :=
  match session.course with
  | .done _ => true
  | .ask .. => false

/-- A shared store and the requests that were ever made. One that fails or is dropped asks nothing more; the
locks of coordinators only rule out some of the orders. -/
structure System where
  coordinator : Coordinator := {}
  sessions : List Session := []

/-- What may happen next. -/
inductive Action where
  | begin (now : Instant) (request : Request)
  /-- From now on other calls are bound to fail. -/
  | arm (outages : List Outage)
  /-- The next question of a session is answered. -/
  | advance (index : Nat)

namespace System

variable {name : Nat → String}

/-- The answer to the next question of a session. -/
def advance (name : Nat → String) (system : System) (index : Nat) (session : Session) : System :=
  match session.course with
  | .done _ => system
  | .ask question next =>
    let (reply, coordinator) := system.coordinator.answer name question
    { coordinator, sessions := system.sessions.set index { session with course := next reply } }

/-- What an action does. -/
def step (name : Nat → String) (system : System) : Action → System
  | .begin now request => { system with sessions := system.sessions ++ [.start now request] }
  | .arm outages => { system with coordinator := { system.coordinator with outages } }
  | .advance index =>
    match system.sessions[index]? with
    | some session => system.advance name index session
    | none => system

/-- The system after a series of actions, from an empty store. -/
def after (name : Nat → String) (actions : List Action) : System :=
  actions.foldl (step name) {}

/-- One action more is one step more. -/
theorem after_append_singleton (actions : List Action) (action : Action) :
    after name (actions ++ [action]) = (after name actions).step name action := by
  -- A series of actions is worked off from its front.
  simp [after]

/-- One step more is taken after one action more. -/
theorem after_take_succ {actions : List Action} {moment : Nat} {action : Action}
    (acted : actions[moment]? = some action) :
    after name (actions.take (moment + 1)) = (after name (actions.take moment)).step name action := by
  -- The actions before the next moment are those before this one and its own.
  rw [List.take_add_one, acted, Option.toList_some, after_append_singleton]

/-- How a link may change by an action: only a session that is advanced changes links, as its request
allows. -/
def Moves (system : System) (action : Action) (before after : Link) : Prop :=
  after = before ∨ ∃ index session, action = .advance index ∧ system.sessions[index]? = some session ∧
    Link.Moves session.request before after

/-- An action puts at most a new request behind those that are being worked on. -/
theorem sessions_step (system : System) (action : Action) :
    (system.step name action).sessions.map Session.request =
      system.sessions.map Session.request ++
        match action with
        | .begin _ request => [request]
        | _ => [] := by
  -- Only an answered question needs a look: the session may be another one then, its request is not.
  cases action with
  -- A new session stands behind all others, and failures to come concern none.
  | begin now request => simp [step, Session.start]
  | arm outages => simp [step]
  | advance index =>
    simp only [step, List.append_nil]
    split
    · rename_i session present
      unfold advance
      split
      · rfl
      · -- The session is put back with the request that it had.
        obtain ⟨bound, rfl⟩ := List.getElem?_eq_some_iff.mp present
        refine List.ext_getElem (by simp) fun place _ _ => ?_
        by_cases itself : index = place
        · subst itself
          simp
        · simp [itself]
    · rfl

/-- A session works on the same request as long as it lasts. -/
theorem request_step (name : Nat → String) {system : System} {index : Nat} {request : Request}
    (present : system.sessions[index]?.map Session.request = some request) (action : Action) :
    (system.step name action).sessions[index]?.map Session.request = some request := by
  -- The requests that are there already stay at their places.
  rw [← List.getElem?_map] at present ⊢
  rw [sessions_step, List.getElem?_append_left (List.getElem?_eq_some_iff.mp present).1, present]

/-- A request that is being worked on was made. -/
theorem begun_of_present {actions : List Action} {index : Nat} {request : Request}
    (present : (after name actions).sessions[index]?.map Session.request = some request) :
    ∃ now, .begin now request ∈ actions := by
  have among : request ∈ (after name actions).sessions.map Session.request :=
    List.mem_of_getElem? (by rwa [List.getElem?_map])
  -- That the request is among those worked on is all that the induction needs.
  clear present
  -- The request has come in with the last action or with an earlier one.
  induction actions using List.reverseRecOn with
  | nil => simp [after] at among
  | append_singleton actions action ih =>
    rw [after_append_singleton, sessions_step] at among
    rcases List.mem_append.mp among with earlier | new
    · obtain ⟨now, made⟩ := ih earlier
      exact ⟨now, List.mem_append_left _ made⟩
    · cases action with
      | begin now made =>
        rw [List.mem_singleton.mp new]
        exact ⟨now, by simp⟩
      | arm outages => cases new
      | advance index => cases new

/-- What holds of a system at all times: the store keeps a valid book, every session keeps to its terms with
what it knows, and no identifier of a link is given out twice. -/
structure Holds (name : Nat → String) (system : System) (book : Book) (known : Nat → Knowledge) :
    Prop where
  kept : book.Kept system.coordinator.store
  valid : book.Valid
  courses : ∀ (index : Nat) (session : Session), system.sessions[index]? = some session →
    session.course.Keeps (terms session.now session.request) session.request.Ends (known index)
  placed : ∀ index, ∀ entry ∈ (known index).placed,
    entry ∈ book.links.map fun link => (link.id, link.ruleId)
  supply : Supply name system.coordinator.minted (book.links.map Link.id) (Knowledge.minted ∘ known)

namespace Holds

variable {system : System} {book : Book} {known : Nat → Knowledge}

/-- At the start there are neither documents nor sessions. -/
theorem start : ({} : System).Holds name {} fun _ => {} where
  kept := .empty
  valid := ⟨by simp, by simp, by simp, by simp⟩
  courses := by simp
  placed := by simp
  supply := .start

/-- A request that is made keeps to its terms from the start, knowing nothing. -/
theorem begins (holds : system.Holds name book known) (now : Instant) (request : Request) :
    (system.step name (.begin now request)).Holds name book
      (Function.update known system.sessions.length {}) where
  kept := holds.kept
  valid := holds.valid
  courses := by
    intro index session present
    -- A session is an older one, the new one, or none at all.
    rcases Nat.lt_trichotomy index system.sessions.length with older | rfl | beyond
    · rw [Function.update_of_ne (Nat.ne_of_lt older)]
      refine holds.courses index session ?_
      simpa only [step, List.getElem?_append_left older] using present
    · rw [Function.update_self]
      simp only [step, List.getElem?_concat_length, Option.some.injEq] at present
      subst present
      exact request.operation_keeps now
    · have none_there : (system.sessions ++ [.start now request])[index]? = none :=
        List.getElem?_eq_none (by simpa using Nat.succ_le_of_lt beyond)
      simp [step, none_there] at present
  placed := by
    intro index
    by_cases new : index = system.sessions.length
    · subst new
      simp
    · simpa [new] using holds.placed index
  supply := by
    rw [Function.comp_update]
    exact holds.supply.forget _

/-- Other failures to come change nothing so far. -/
theorem arms (holds : system.Holds name book known) (outages : List Outage) :
    (system.step name (.arm outages)).Holds name book known :=
  ⟨holds.kept, holds.valid, holds.courses, holds.placed, holds.supply⟩

/-- When the next question of a session is answered, the book changes as the request allows, and all that
holds of the system goes on to hold. -/
theorem advances (injective : Function.Injective name) (holds : system.Holds name book known)
    {index : Nat} {session : Session} (present : system.sessions[index]? = some session)
    {question : Question}
    {next : question.Answer → Course Question Question.Answer (Except StoreError session.request.Result)}
    (asking : session.course = .ask question next) :
    ∃ after known', (system.advance name index session).Holds name after
        (Function.update known index known') ∧
      Turn session.request (known index) known' book after
        (Supply.fresh name system.coordinator.minted
          (system.coordinator.answer name question).2.minted) := by
  -- The session has kept to its terms so far, so that the question is one that it may ask.
  have keeps := holds.courses index session present
  rw [asking] at keeps
  obtain ⟨allowed, onwards⟩ := keeps
  obtain ⟨after, known', kept, heard, turn, grows⟩ := system.coordinator.answer_turn name allowed
    holds.kept holds.valid holds.supply.unique (holds.placed index)
  refine ⟨after, known', ?_, turn⟩
  simp only [System.advance, asking]
  obtain ⟨moved, added, links, moves, named⟩ := turn.moved
  exact {
    kept := kept
    valid := turn.valid
    courses := by
      intro other session' present'
      -- The session itself goes on with what it has heard, and all others with what they knew.
      by_cases itself : other = index
      · subst itself
        obtain ⟨bound, -⟩ := List.getElem?_eq_some_iff.mp present
        rw [List.getElem?_set_self bound, Option.some.injEq] at present'
        subst present'
        rw [Function.update_self]
        exact onwards _ known' heard
      · rw [List.getElem?_set_ne (Ne.symm itself)] at present'
        rw [Function.update_of_ne itself]
        exact holds.courses other session' present'
    placed := by
      intro other entry member
      have among : entry ∈ book.links.map fun link => (link.id, link.ruleId) := by
        by_cases itself : other = index
        · subst itself
          rw [Function.update_self] at member
          exact (turn.placed entry member).elim (holds.placed other entry) id
        · rw [Function.update_of_ne itself] at member
          exact holds.placed other entry member
      -- Links move on, but not away from their rules.
      rw [links, List.map_append, map_placed_of_moves moves]
      exact List.mem_append_left _ among
    supply := by
      rw [Function.comp_update, links, List.map_append, map_id_of_moves moves]
      exact holds.supply.give injective grows named }

/-- After every action all goes on to hold, and links have moved and come in as the action allows. -/
theorem steps (injective : Function.Injective name) (holds : system.Holds name book known) (action : Action) :
    ∃ after known', (system.step name action).Holds name after known' ∧
      ∃ moved added, after.links = moved ++ added ∧
        List.Forall₂ (system.Moves action) book.links moved := by
  -- Only a question that is answered can change the book at all.
  have idle : List.Forall₂ (system.Moves action) book.links book.links :=
    List.forall₂_same.mpr fun _ _ => .inl rfl
  cases action with
  | begin now request => exact ⟨book, _, holds.begins now request, book.links, [], by simp, idle⟩
  | arm outages => exact ⟨book, _, holds.arms outages, book.links, [], by simp, idle⟩
  | advance index =>
    simp only [step]
    cases present : system.sessions[index]? with
    | none => exact ⟨book, known, holds, book.links, [], by simp, idle⟩
    | some session =>
      dsimp only
      cases asking : session.course with
      | done result =>
        refine ⟨book, known, ?_, book.links, [], by simp, idle⟩
        simpa only [System.advance, asking] using holds
      | ask question next =>
        obtain ⟨after, known', holds', turn⟩ := holds.advances injective present asking
        obtain ⟨moved, added, links, moves, -⟩ := turn.moved
        -- The turn of the session tells which links have moved, and that they have done so for its request.
        exact ⟨after, _, holds', moved, added, links,
          moves.imp fun _ _ move => .inr ⟨index, session, rfl, present, move⟩⟩

/-- All holds after every series of actions. -/
theorem reached (injective : Function.Injective name) (actions : List Action) :
    ∃ book known, (after name actions).Holds name book known := by
  -- All holds at the start, and every action keeps it.
  induction actions using List.reverseRecOn with
  | nil => exact ⟨{}, _, start⟩
  | append_singleton actions action ih =>
    obtain ⟨book, known, holds⟩ := ih
    obtain ⟨book', known', holds', -⟩ := holds.steps injective action
    exact ⟨book', known', by rwa [after_append_singleton]⟩

end Holds

/-- A rule with a single page. -/
def sampleRule : Rule :=
  { id := "r", pattern := "p", target := "t", linkPattern := "u\x7bpage\x7d", totalPages := 1, updated := 0 }

/-- The sample rule fits into its document. -/
theorem sampleRule_fits : sampleRule.Fits :=
  ⟨by decide, by decide, by decide, by decide, by simp [sampleRule]⟩

/-- The calendar's zero. -/
def dawn : Instant :=
  ⟨0, by decide⟩

/-- Ten milliseconds later. -/
def noon : Instant :=
  ⟨10, by decide⟩

/-- A rule is stored, its only link is generated and leased to a worker, taken back and leased to another
one. -/
def sampleDay : List Action :=
  [.begin dawn (.upsertRule sampleRule sampleRule_fits), .advance 0,
    .begin dawn (.generateLinks "r"), .advance 1, .advance 1, .advance 1, .advance 1, .advance 1,
    .begin dawn (.allocate "r" "w" 3), .advance 2, .advance 2, .advance 2,
    .begin noon (.reclaim 5), .advance 3,
    .begin noon (.allocate "r" "v" 3), .advance 4, .advance 4, .advance 4]

/-- The only link of the sample day, leased. -/
def sampleLink (worker : String) (now : Int) : Link :=
  { id := "", url := "u1", status := .running, worker, ruleId := "r", updated := now }

end System

end Harvest.Lease

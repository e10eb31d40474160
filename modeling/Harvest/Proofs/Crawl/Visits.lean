import Harvest.Proofs.Crawl.Log

/-! The visits of a crawl: every target that was answered, with what was found there. -/

namespace Harvest.Crawl

/-- What is found at a target. -/
inductive Finding where
  /-- There is no reply, or one that tells a failure. -/
  | failed
  | page (content : Content)
  deriving Repr, Inhabited

namespace Finding

/-- Is the target to be tried again? -/
def fails : Finding → Bool
  | failed | page .wrongPage => true
  | _ => false

/-- Is the page taken by the pattern, be it as a record or as one of no use? -/
def extracts : Finding → Bool
  | page (.record _) | page .invalid => true
  | _ => false

/-- The detail pages that a listing page names. -/
def listed : Finding → List DetailPage
  | page (.listing pages) => pages
  | _ => []

/-- Is the page a listing? -/
def lists : Finding → Bool
  | page (.listing _) => true
  | _ => false

end Finding

/-- A target with what was found there. -/
structure Visit where
  target : Target
  finding : Finding
  deriving Repr, Inhabited

/-- The targets that a visit adds to the queue: the detail pages of a listing page that is not too deep. -/
def Visit.details (visit : Visit) : List Target :=
  if visit.target.depth < maxDepth then
    visit.finding.listed.map fun page => ⟨page.url, visit.target.depth + 1⟩
  else []

/-- The record that a visit finds, with its address. -/
def Visit.record? (visit : Visit) : Option (String × Fields) :=
  match visit.finding with
  | .page (.record fields) => some (visit.target.url, fields)
  | _ => none

/-- A visit that fails finds no record. -/
theorem Visit.record?_of_fails {visit : Visit} (fails : visit.finding.fails = true) : visit.record? = none := by
  -- A page with a record is no failure.
  unfold record?
  split
  · rename_i found
    rw [found] at fails
    cases fails
  · rfl

/-- A visit that fails adds no detail pages. -/
theorem Visit.details_of_fails {visit : Visit} (fails : visit.finding.fails = true) : visit.details = [] := by
  -- Only a listing names detail pages, and a listing is no failure.
  have unlisted : visit.finding.listed = [] := by
    cases found : visit.finding with
    | failed => rfl
    | page content => cases content <;> simp_all [Finding.listed, Finding.fails]
  rw [details, unlisted, List.map_nil, ite_self]

/-- What the outcome of a fetch amounts to. -/
def State.find (plan : Plan) (state : State) (target : Target) : Outcome → Finding
  | .disconnected => .failed
  | .answered status _ body =>
    if 400 ≤ status then .failed
    else .page (Content.ofPage plan.pattern plan.listing target.url body (state.queue.parentValue target.url))

/-- The visit that an event makes, if it answers a target that is open and the crawl goes on. -/
def State.visit? (plan : Plan) (state : State) : Event → Option Visit
  | .fetched index outcome moment =>
    match state.phase with
    | .fetching unanswered =>
      match unanswered[index]? with
      | some target =>
        (state.handle plan target outcome moment).map fun _ => ⟨target, state.find plan target outcome⟩
      | none => none
    | _ => none
  | _ => none

/-- A visit is made by the answer to a target that is open. -/
theorem State.eq_of_visit? {plan : Plan} {state : State} {event : Event} {visit : Visit}
    (visited : state.visit? plan event = some visit) : ∃ index outcome moment unanswered after,
      event = .fetched index outcome moment ∧ state.phase = .fetching unanswered ∧
        unanswered[index]? = some visit.target ∧ state.handle plan visit.target outcome moment = some after ∧
          visit.finding = state.find plan visit.target outcome := by
  -- No other event, and no other phase, has a visit.
  unfold visit? at visited
  split at visited
  · rename_i index outcome moment
    split at visited
    · rename_i unanswered phase
      split at visited
      · rename_i target stands
        obtain ⟨after, handled, rfl⟩ := Option.map_eq_some_iff.mp visited
        exact ⟨index, outcome, moment, unanswered, after, rfl, phase, stands, handled, rfl⟩
      · cases visited
    · cases visited
  · cases visited

section Fetched

variable {plan : Plan} {state after : State} {index : Nat} {outcome : Outcome} {moment : Moment}
  {unanswered : List Target} {target : Target}

/-- A target that is open and dealt with is visited. -/
theorem State.visit?_fetched (phase : state.phase = .fetching unanswered)
    (stands : unanswered[index]? = some target) (handled : state.handle plan target outcome moment = some after) :
    state.visit? plan (.fetched index outcome moment) = some ⟨target, state.find plan target outcome⟩ := by
  -- The three conditions are looked at one after the other.
  simp only [visit?, phase, stands, handled, Option.map_some]

/-- After a target is dealt with the crawl goes on. -/
theorem State.step_fetched (phase : state.phase = .fetching unanswered)
    (stands : unanswered[index]? = some target) (handled : state.handle plan target outcome moment = some after) :
    state.step plan (.fetched index outcome moment) = after.afterOutcome (unanswered.eraseIdx index) := by
  -- The same conditions, one after the other.
  simp only [step, phase, stands, handled]

/-- A target that cannot be dealt with is not visited. -/
theorem State.visit?_broken (phase : state.phase = .fetching unanswered)
    (stands : unanswered[index]? = some target) (stuck : state.handle plan target outcome moment = none) :
    state.visit? plan (.fetched index outcome moment) = none := by
  -- Here the third condition fails.
  simp only [visit?, phase, stands, stuck, Option.map_none]

/-- At a target that cannot be dealt with the crawl breaks off. -/
theorem State.step_broken (phase : state.phase = .fetching unanswered)
    (stands : unanswered[index]? = some target) (stuck : state.handle plan target outcome moment = none) :
    state.step plan (.fetched index outcome moment) = { state with phase := .broken unanswered } := by
  -- Here the third condition fails.
  simp only [step, phase, stands, stuck]

end Fetched

/-- The events of a crawl that goes on from a state, each with the state that it meets. -/
def turnsFrom (plan : Plan) : State → List Event → List (State × Event)
  | _, [] => []
  | state, event :: rest => (state, event) :: turnsFrom plan (state.step plan event) rest

/-- The events of a crawl, each with the state that it meets. -/
def turns (plan : Plan) (events : List Event) : List (State × Event) :=
  turnsFrom plan (.start plan) events

/-- One event more meets the state that the others have led to. -/
theorem turns_append_singleton (plan : Plan) (events : List Event) (event : Event) :
    turns plan (events ++ [event]) = turns plan events ++ [((History.after plan events).state, event)] := by
  have goesOn (state : State) : turnsFrom plan state (events ++ [event]) =
      turnsFrom plan state events ++ [(events.foldl (State.step plan) state, event)] := by
    -- The events in front are taken one by one.
    induction events generalizing state with
    | nil => rfl
    | cons first rest ih => exact congrArg _ (ih (state.step plan first))
  rw [History.state_after]
  exact goesOn (.start plan)

/-- The visits of a crawl, in order. -/
def visits (plan : Plan) (events : List Event) : List Visit :=
  (turns plan events).filterMap fun (state, event) => state.visit? plan event

/-- One event more is one visit more at most. -/
theorem visits_append_singleton (plan : Plan) (events : List Event) (event : Event) :
    visits plan (events ++ [event]) =
      visits plan events ++ ((History.after plan events).state.visit? plan event).toList := by
  -- The last event is looked at by itself.
  rw [visits, turns_append_singleton, List.filterMap_append]
  cases visited : (History.after plan events).state.visit? plan event <;> simp [visits, visited]

/-- Does an event come that is told from the state that it meets? -/
def occurs (plan : Plan) (told : State → Event → Bool) (events : List Event) : Bool :=
  (turns plan events).any fun (state, event) => told state event

/-- With one event more, either that one is told or one before. -/
theorem occurs_append_singleton (plan : Plan) (told : State → Event → Bool) (events : List Event)
    (event : Event) :
    occurs plan told (events ++ [event]) =
      (occurs plan told events || told (History.after plan events).state event) := by
  -- The last event is looked at by itself.
  simp [occurs, turns_append_singleton]

end Harvest.Crawl

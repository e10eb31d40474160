import Harvest.Crawl.Run
import Harvest.Proofs.Crawl.Work
import Mathlib.Data.List.Induction

/-! What passes between a crawl and its surroundings, written down in order: leases and pages that come
in, answers of the sink, the end of the last flush, and the report of completed links. -/

namespace Harvest.Crawl

/-- An entry in the log of a crawl. -/
inductive Note where
  /-- The coordinator has leased links. -/
  | leased (links : List Link)
  /-- A fetch was answered, with a page of the given content. -/
  | answered (url : String) (status : Nat) (content : Content) (moment : Moment)
  /-- The sink has answered a write. -/
  | wrote (writing : Writing) (reply : Except StoreError Unit)
  /-- The last flush has returned. -/
  | lastFlushed (result : Except StoreError Unit)
  /-- The coordinator is told the completed links. -/
  | completing (ids : List String)

namespace Note

/-- The records that are extracted from a page: those of a page that was fetched without a failure. -/
def extracted : Note → List Json
  | answered url status (.record fields) moment =>
    if status < 400 then [recordDocument moment.freshId url moment.now fields] else []
  | _ => []

/-- The records that the sink accepts with an answer. -/
def accepted : Note → List Json
  | wrote writing reply => writing.taken reply
  | _ => []

end Note

/-- The records that were extracted so far. -/
def extractedIn (log : List Note) : List Json :=
  log.flatMap Note.extracted

/-- The records that the sink has accepted so far. -/
def acceptedIn (log : List Note) : List Json :=
  log.flatMap Note.accepted

/-- How the last flush returns after the answer to a write, unless it goes on with another one. -/
def lastFlushNotes : Except StoreError (Option Writing) → List Note
  | .ok none => [.lastFlushed (.ok ())]
  | .ok (some _) => []
  | .error cause => [.lastFlushed (.error cause)]

/-- The note about the outcome of a fetch, if it was answered. -/
def State.answerNotes (plan : Plan) (state : State) (target : Target) (moment : Moment) :
    Outcome → List Note
  | .disconnected => []
  | .answered status _ body =>
    [.answered target.url status
      (Content.ofPage plan.pattern plan.listing target.url body (state.queue.parentValue target.url)) moment]

/-- The notes about an event that a crawl waits for. -/
def State.notes (plan : Plan) (state : State) : Event → List Note
  | .leased (.ok links) =>
    match state.phase with
    | .leasing | .leasingMore => [.leased links]
    | _ => []
  | .fetched index outcome moment =>
    match state.phase with
    | .fetching unanswered =>
      match unanswered[index]? with
      | some target => state.answerNotes plan target moment outcome
      | none => []
    | _ => []
  | .flushed reply =>
    match state.background with
    | some writing => [.wrote writing reply]
    | none => []
  | .rested =>
    match state.phase, state.background with
    | .closing _, none => lastFlushNotes (.ok state.buffer.begin.1.firstWrite)
    | _, _ => []
  | .stored reply =>
    match state.phase with
    | .storing _ writing => .wrote writing reply :: lastFlushNotes (state.buffer.afterWrite writing reply).2
    | _ => []
  | _ => []

/-- The note about a report of completed links, when the crawl begins to wait for its answer. -/
def completingNotes : Phase → Phase → List Note
  | .reporting .., _ => []
  | _, .reporting _ ids => [.completing ids]
  | _, _ => []

/-- A crawl with its log. -/
structure History where
  state : State
  log : List Note := []

namespace History

/-- Takes an event and writes down what happens. -/
def step (plan : Plan) (history : History) (event : Event) : History :=
  let state := history.state.step plan event
  { state
    log := history.log ++ history.state.notes plan event ++ completingNotes history.state.phase state.phase }

/-- A crawl after a series of events. It may be dropped after any of them. -/
def after (plan : Plan) (events : List Event) : History :=
  events.foldl (step plan) { state := .start plan }

/-- One event more is one step more. -/
theorem after_append_singleton (plan : Plan) (events : List Event) (event : Event) :
    after plan (events ++ [event]) = (after plan events).step plan event := by
  -- The events are taken from the front.
  simp [after]

/-- The log does not change what a crawl does. -/
theorem state_after (plan : Plan) (events : List Event) :
    (after plan events).state = events.foldl (State.step plan) (.start plan) := by
  -- The log is only written to.
  induction events using List.reverseRecOn with
  | nil => rfl
  | append_singleton events event ih =>
    rw [after_append_singleton, List.foldl_append, ← ih]
    rfl

/-- A crawl in any surroundings is one after a series of events. -/
theorem runFrom_reached {σ : Type} (world : Surroundings σ) (plan : Plan) (fuel : Nat) (here : σ) :
    ∃ events, (runFrom world plan fuel (.start plan) here).1 = (after plan events).state := by
  -- Whatever answers the crawl, each answer is an event.
  have goesOn (state : State) : ∃ events : List Event,
      (runFrom world plan fuel state here).1 = events.foldl (State.step plan) state := by
    induction fuel generalizing state here with
    | zero => exact ⟨[], rfl⟩
    | succ fuel ih =>
      unfold runFrom
      split
      · rename_i event here' _
        obtain ⟨events, reached⟩ := ih here' (state.step plan event)
        exact ⟨event :: events, reached⟩
      · exact ⟨[], rfl⟩
  obtain ⟨events, reached⟩ := goesOn (.start plan)
  exact ⟨events, by rw [reached, state_after]⟩

end History

end Harvest.Crawl

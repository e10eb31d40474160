import Harvest.Crawl.Basic

/-! A crawl that runs to its end with one fetch after the other and no flush in the background. -/

namespace Harvest.Crawl

/-- Whatever answers a crawl, with a state of its own. -/
structure Surroundings (σ : Type) where
  lease : σ → (ruleId worker : String) → Nat → Except Service.JobError (List Link) × σ
  /-- Is the time of the crawl up? -/
  isLate : σ → Bool × σ
  /-- What comes of a fetch with the given identity. -/
  fetch : σ → Target → Identity → (Outcome × Moment) × σ
  write : σ → (collection : String) → List Json → Except StoreError Unit × σ
  complete : σ → List String → Except Service.JobError Unit × σ

/-- The event that comes next in a phase; a crawl that has ended or broken off has none. -/
def Surroundings.next? (world : Surroundings σ) (plan : Plan) (state : State) (here : σ) :
    Option (Event × σ) :=
  match state.phase with
  | .leasing | .leasingMore =>
    let (reply, here) := world.lease here plan.rule.id plan.worker plan.settings.batchSize
    some (.leased reply, here)
  | .checking | .rechecking =>
    let (late, here) := world.isLate here
    some (.clock late, here)
  | .connecting => some (.client true, here)
  | .fetching unanswered =>
    unanswered.head?.map fun target =>
      let ((outcome, moment), here) := world.fetch here target state.identity
      (.fetched 0 outcome moment, here)
  | .closing _ => some (if state.background.isSome then .flushed (.ok ()) else .rested, here)
  | .storing _ writing =>
    let (collection, documents) := writing.request plan.rule.target
    let (reply, here) := world.write here collection documents
    some (.stored reply, here)
  | .reporting _ ids =>
    let (reply, here) := world.complete here ids
    some (.reported reply, here)
  | .broken _ | .ended _ => none

/-- Lets a crawl go on for as many events as `fuel` says. -/
def runFrom (world : Surroundings σ) (plan : Plan) : Nat → State → σ → State × σ
  | 0, state, here => (state, here)
  | fuel + 1, state, here =>
    match world.next? plan state here with
    | some (event, here) => runFrom world plan fuel (state.step plan event) here
    | none => (state, here)

/-- Runs a crawl of a rule; none if it takes more events than `fuel` says. -/
def run (world : Surroundings σ) (fuel : Nat) (rule : Rule) (worker : String) (settings : WorkerSettings)
    (proxy : ProxySettings) (here : σ) : Option (Except Failure Report) × σ :=
  match Plan.make rule worker settings proxy with
  | .error failure => (some (.error failure), here)
  | .ok plan =>
    let (state, here) := runFrom world plan fuel (State.start plan) here
    match state.phase with
    | .ended result => (some result, here)
    | .broken _ => (some (.error .overrun), here)
    | _ => (none, here)

end Harvest.Crawl

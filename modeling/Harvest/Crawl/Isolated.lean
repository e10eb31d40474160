import Harvest.Crawl.Round
import Harvest.Crawl.Sink
import Harvest.Lease.Coordinator
import Harvest.Lease.Identifier

/-! A process without a network. No request leaves it: every fetch finds no connection, and a coordinator
elsewhere cannot be reached. A coordinator in the process itself answers. -/

namespace Harvest.Crawl

open Service (JobCall JobError)

/-- What is fixed about a process without a network. -/
structure Isolated where
  /-- How the coordinator in the process is set up. -/
  service : Service.Settings
  now : Int
  /-- The identifier of each number. -/
  idOf : Nat → String
  /-- Do workers turn to a coordinator elsewhere? -/
  elsewhere : Bool := false
  /-- Is the time of a crawl up from the start? -/
  late : Bool := false

namespace Isolated

/-- A fetch that finds no connection. -/
def fetch (now : Int) (id : String) : Outcome × Moment :=
  (.disconnected, ⟨now, 0, id⟩)

/-- Runs an operation of the coordinator in the process. -/
def perform (isolated : Isolated) (coordinator : Lease.Coordinator) (operation : Lease.Operation α) :
    Except StoreError α × Lease.Coordinator :=
  coordinator.run isolated.idOf operation

/-- Carries out a call of a worker. Which of several rules is selected is left open, so it is the first. -/
def call (isolated : Isolated) (coordinator : Lease.Coordinator) (call : JobCall) :
    Except JobError call.Result × Lease.Coordinator :=
  if isolated.elsewhere then (call.remote isolated.now (fun _ => none), coordinator)
  else
    let (result, coordinator) :=
      isolated.perform coordinator (call.operation isolated.service isolated.now id)
    (result.mapError .store, coordinator)

/-- An identifier that was never given out before. -/
def freshId (isolated : Isolated) (coordinator : Lease.Coordinator) : String × Lease.Coordinator :=
  (isolated.idOf coordinator.minted, { coordinator with minted := coordinator.minted + 1 })

/-- What answers a round in the process; results go to the coordinator's store. -/
def surroundings (isolated : Isolated) : RoundSurroundings Lease.Coordinator where
  lease coordinator ruleId worker size := isolated.call coordinator (.allocate ruleId worker size)
  isLate coordinator := (isolated.late, coordinator)
  fetch coordinator _ _ :=
    let (id, coordinator) := isolated.freshId coordinator
    (fetch isolated.now id, coordinator)
  write coordinator collection documents :=
    isolated.perform coordinator (storeResults collection documents)
  complete coordinator ids := isolated.call coordinator (.complete ids)
  fetchRule coordinator id := isolated.call coordinator (.fetchRule id)
  workerName coordinator :=
    let (id, coordinator) := isolated.freshId coordinator
    (Identifier.workerName id, coordinator)

/-- More events than a crawl without connections takes. -/
def fuel : Nat := 100000000

/-- The process for a worker with the given settings. -/
def ofSettings (settings : Settings) (now : Int) (idOf : Nat → String) (elsewhere : Bool) : Isolated where
  service := {
    pageSize := settings.storage.pageSize
    batchSize := settings.worker.batchSize
    sample := settings.lease.selectionSample }
  now := now
  idOf := idOf
  elsewhere := elsewhere
  late := settings.worker.maxRuntime = 0

/-- The outcomes of a round for a coordinator elsewhere, or for one in the process without any rules. -/
def round (settings : Settings) (now : Int) (idOf : Nat → String) (elsewhere : Bool) :
    List InstanceOutcome :=
  let isolated := ofSettings settings now idOf elsewhere
  (runRound isolated.surroundings fuel settings.worker settings.proxy {}).1

end Isolated

end Harvest.Crawl

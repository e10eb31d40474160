import Harvest.Lease.Operation

/-! A coordinator at work: a store that may fail, a supply of identifiers, and the operations run to their
ends one after the other. -/

namespace Harvest.Lease

/-- What operations of a coordinator act on. -/
structure Coordinator where
  store : Store := {}
  /-- The calls that are bound to fail. -/
  outages : List Outage := []
  /-- The identifiers given out so far. -/
  minted : Nat := 0
  deriving Repr, Inhabited

namespace Coordinator

/-- Performs a store call, unless it is bound to fail. -/
def perform (coordinator : Coordinator) (call : StoreCall) :
    Except StoreError call.Result × Coordinator :=
  match Outage.strike call.method coordinator.outages with
  | (some reason, outages) => (.error (.backend reason), { coordinator with outages })
  | (none, outages) =>
    let (result, store) := coordinator.store.perform call
    (result, { coordinator with store, outages })

/-- Answers a question of an operation; `name` gives the identifier of each number. -/
def answer (name : Nat → String) (coordinator : Coordinator) :
    (question : Question) → question.Answer × Coordinator
  | .store call => coordinator.perform call
  | .freshId => (name coordinator.minted, { coordinator with minted := coordinator.minted + 1 })

/-- Runs an operation to its end. -/
def run (name : Nat → String) (coordinator : Coordinator) (operation : Operation α) :
    Except StoreError α × Coordinator :=
  Course.run (answer name) operation.run coordinator

end Coordinator

end Harvest.Lease

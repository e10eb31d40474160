import Harvest.Calendar
import Harvest.Lease.Operation
import Harvest.Settings.Basic

/-! What the coordinator does from time to time: old leases are taken back, and links are generated for the
rules that are due. Failures are passed over until the next time. -/

namespace Harvest.Lease

/-- The time before which a leased link must have changed last for a sweep to take it back, if it can be told. -/
def cutoff? (settings : LeaseSettings) (now : Int) : Option Int := do
  Calendar.before? (← settings.reclaimSpan?) now

/-- Takes back the leases that are older than the settings allow. A sweep that cannot tell its cutoff is given up. -/
def sweep (settings : LeaseSettings) (now : Int) : Operation Unit :=
  match cutoff? settings now with
  | some _ => do
    let _ ← ExceptT.lift (reclaim now settings.reclaimMillis).run
  | none => return ()

/-- Generates the links of the rules that are due. -/
def generation (now : Int) : Operation Unit := do
  let _ ← ExceptT.lift (generateDue now).run

/-- One round of both. -/
def maintain (settings : LeaseSettings) (now : Int) : Operation Unit := do
  sweep settings now
  generation now

end Harvest.Lease

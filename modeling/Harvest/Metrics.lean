import Harvest.Json.Basic

/-! Counters of one crawl: every request and every page event moves exactly the counters named for it. -/

namespace Harvest

/-- The counters. -/
structure Metrics where
  totalRequests : Nat := 0
  successfulRequests : Nat := 0
  failedRequests : Nat := 0
  /-- Failures by status in ascending order; 0 stands for connections that gave no status. -/
  failuresByStatus : List (Nat × Nat) := []
  bytesDownloaded : Nat := 0
  /-- Sum of the request durations in milliseconds. -/
  totalDuration : Nat := 0
  records : Nat := 0
  wrongPages : Nat := 0
  invalidPages : Nat := 0
  /-- Detail pages queued from listing pages. -/
  deepLinks : Nat := 0
  requeues : Nat := 0
  giveUps : Nat := 0
  deriving DecidableEq, Repr, Inhabited

namespace Metrics

/-- A counted event. -/
inductive Event where
  /-- A finished request; without a status the connection failed. -/
  | request (success : Bool) (milliseconds : Nat) (status : Option Nat) (bytes : Nat)
  | record
  | wrongPage
  | invalidPage
  | deepLinks (count : Nat)
  | requeued
  | gaveUp
  deriving DecidableEq, Repr, Inhabited

/-- One more failure of the given status. -/
def addFailure (status : Nat) : List (Nat × Nat) → List (Nat × Nat)
  | [] => [(status, 1)]
  | (other, count) :: rest =>
    if status < other then (status, 1) :: (other, count) :: rest
    else if status = other then (other, count + 1) :: rest
    else (other, count) :: addFailure status rest

/-- The counters after an event. -/
def count (metrics : Metrics) : Event → Metrics
  | .request success milliseconds status bytes =>
    let counted := { metrics with
      totalRequests := metrics.totalRequests + 1
      totalDuration := metrics.totalDuration + milliseconds
      bytesDownloaded := metrics.bytesDownloaded + bytes }
    if success then { counted with successfulRequests := metrics.successfulRequests + 1 }
    else { counted with
      failedRequests := metrics.failedRequests + 1
      failuresByStatus := addFailure (status.getD 0) metrics.failuresByStatus }
  | .record => { metrics with records := metrics.records + 1 }
  | .wrongPage => { metrics with wrongPages := metrics.wrongPages + 1 }
  | .invalidPage => { metrics with invalidPages := metrics.invalidPages + 1 }
  | .deepLinks count => { metrics with deepLinks := metrics.deepLinks + count }
  | .requeued => { metrics with requeues := metrics.requeues + 1 }
  | .gaveUp => { metrics with giveUps := metrics.giveUps + 1 }

/-- The document of the counters. -/
def toJson (metrics : Metrics) : Json :=
  .object [
    ("total_requests", .int metrics.totalRequests),
    ("successful_requests", .int metrics.successfulRequests),
    ("failed_requests", .int metrics.failedRequests),
    ("failures_by_status", .object
      (metrics.failuresByStatus.map fun (status, count) => (toString status, Json.int count))),
    ("bytes_downloaded", .int metrics.bytesDownloaded),
    ("total_duration_ms", .int metrics.totalDuration),
    ("records", .int metrics.records),
    ("wrong_pages", .int metrics.wrongPages),
    ("invalid_pages", .int metrics.invalidPages),
    ("deep_links", .int metrics.deepLinks),
    ("requeues", .int metrics.requeues),
    ("give_ups", .int metrics.giveUps)]

end Metrics

end Harvest

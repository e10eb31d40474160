import Harvest.Proofs.Crawl.Following

/-! The order in which the fetches of a cycle are answered does not matter for what a crawl comes to. -/

namespace Harvest.Crawl

/-- What two crawls have in common: the links dealt with and given up, the records, the fetches and the
counters. -/
structure SameResults (plan other : Plan) (events events' : List Event) : Prop where
  processed : ∀ id, id ∈ (History.after plan events).state.queue.processed ↔
    id ∈ (History.after other events').state.queue.processed
  givenUp : ∀ id, id ∈ (History.after plan events).state.queue.givenUp ↔
    id ∈ (History.after other events').state.queue.givenUp
  /-- Each record counts as often as it was extracted. -/
  records : (recordsIn (History.after plan events).log).Perm (recordsIn (History.after other events').log)
  fetches : ∀ url, fetchesAt (visits plan events) url = fetchesAt (visits other events') url
  metrics : (History.after plan events).state.metrics = (History.after other events').state.metrics

/-- What a crawl comes to is told by the links leased and by its attempts in any order, if no address is queued
twice. -/
theorem sameResults_of_perm {plan other : Plan} {events events' : List Event}
    (leased : (batchesIn (History.after plan events).log).flatten =
      (batchesIn (History.after other events').log).flatten)
    (same : (attempts plan events).Perm (attempts other events'))
    (limit : plan.settings.giveUpAfter = other.settings.giveUpAfter)
    (once : Once (batchesIn (History.after plan events).log) (visits plan events))
    (once' : Once (batchesIn (History.after other events').log) (visits other events')) :
    SameResults plan other events events' := by
  -- All of it is told by the visits, where their order does not matter.
  have visited : (visits plan events).Perm (visits other events') := by
    rw [visits_eq, visits_eq]
    exact same.map _
  have failures (url : String) : failuresAt (visits plan events) url = failuresAt (visits other events') url :=
    visited.countP_eq _
  have first := (schedule_run plan events).1
  have second := (schedule_run other events').1
  exact {
    processed := fun id => by
      refine (first.mem_processed once).trans (.trans ?_ (second.mem_processed once').symm)
      simp only [leased, visited.mem_iff]
    givenUp := fun id => by
      refine (first.mem_givenUp once).trans (.trans ?_ (second.mem_givenUp once').symm)
      simp only [leased, failures, limit]
    records := by
      rw [recordsIn_after, recordsIn_after]
      exact visited.filterMap _
    fetches := fun url => (visited.map _).countP_eq _
    metrics := by
      rw [metrics_after, metrics_after]
      exact Metrics.foldl_count_perm (same.flatMap_right _) {} }

/-- Two crawls by the same script come to the same results, in whatever order the fetches of their cycles are
answered and however many are open at a time, if no address is queued twice and the time is not up. -/
theorem order_indifferent {script : Script} {plan other : Plan} (alike : plan.Alike other)
    {events events' : List Event} (follows : script.Follows plan events) (follows' : script.Follows other events')
    (once : Once (batchesIn (History.after plan events).log) (visits plan events))
    (once' : Once (batchesIn (History.after other events').log) (visits other events'))
    (ended : (History.after plan events).state.phase.isOver = true)
    (ended' : (History.after other events').state.phase.isOver = true) :
    SameResults plan other events events' := by
  -- Both go through the rounds of the script and stop at the same one.
  obtain ⟨cycles, leases, leased, rounds, halts⟩ := (Script.tracks_of_isOver ended).mp (tracks follows once)
  obtain ⟨cycles', leases', leased', rounds', halts'⟩ :=
    (Script.tracks_of_isOver ended').mp (tracks follows' once')
  obtain ⟨rfl, same⟩ := (rounds.alike alike).stops_alike rounds' (halts.alike alike) halts'
  exact sameResults_of_perm (leased.trans leased'.symm) same alike.giveUpAfter once once'

/-- Three links are leased. The first page lists a detail page that never answers, the second one gives a record
at the second try, and the third one never answers. -/
def patchyScript : Script where
  lease number :=
    let link (id url : String) : Link := { id, url, ruleId := "r", updated := 0 }
    .ok (if number = 0 then [link "1" "http://s/a", link "2" "http://s/b", link "3" "http://s/c"] else [])
  client _ := true
  fetch url number :=
    if url = "http://s/a" then .answered 200 [] "<li><b>v</b><a href=/d>x</a></li>"
    else if url = "http://s/b" ∧ number = 1 then .answered 200 [] "<p>x</p>"
    else .disconnected

/-- A plan that tries each address twice, with so many fetches open at a time. -/
def patientPlan (threads : Nat) : Plan :=
  { listingPlan with settings := { giveUpAfter := 1, threads } }

/-- The answer to one of the open fetches, by the script. -/
def patchyAnswer (index : Nat) (url : String) (number : Nat) : Event :=
  .fetched index (patchyScript.fetch url number) ⟨0, 0, "f"⟩

/-- Fetches are answered in the order in which they were begun. -/
def firstFirst : List Event :=
  [.leased (patchyScript.lease 0), .clock false, .client true,
    patchyAnswer 0 "http://s/a" 0, patchyAnswer 0 "http://s/b" 0, patchyAnswer 0 "http://s/c" 0,
    .clock false, .client true,
    patchyAnswer 0 "http://s/d" 0, patchyAnswer 0 "http://s/b" 1, patchyAnswer 0 "http://s/c" 1,
    .clock false, .client true, patchyAnswer 0 "http://s/d" 1,
    .clock false, .leased (patchyScript.lease 1)]

/-- Fetches are answered in the opposite order, and results are flushed in between. -/
def lastFirst : List Event :=
  [.leased (patchyScript.lease 0), .clock false, .client true,
    patchyAnswer 2 "http://s/c" 0, patchyAnswer 1 "http://s/b" 0, patchyAnswer 0 "http://s/a" 0,
    .clock false, .client true,
    patchyAnswer 2 "http://s/d" 0, patchyAnswer 1 "http://s/b" 1, .flushDue, patchyAnswer 0 "http://s/c" 1,
    .clock false, .client true, patchyAnswer 0 "http://s/d" 1,
    .clock false, .leased (patchyScript.lease 1)]

/-- In the sample both orders come to the same results. -/
theorem order_indifferent_patchy : SameResults (patientPlan 3) (patientPlan 20) firstFirst lastFirst :=
  @order_indifferent patchyScript (patientPlan 3) (patientPlan 20) ⟨rfl, rfl, rfl⟩ firstFirst lastFirst
    (by decide +kernel) (by decide +kernel) (by decide +kernel) (by decide +kernel) (by decide +kernel)
    (by decide +kernel)

end Harvest.Crawl

import Harvest.Proofs.Crawl.Once

/-! A script says what a crawl meets. A crawl by a script goes on in rounds: it leases links when nothing is
due, and a cycle fetches everything that is due, in any order. That order changes nothing but the order of the
attempts. -/

namespace Harvest.Crawl

/-- What a crawl meets: the answers to its leases, whether its clients can be made, and what comes of the
fetches of an address, each told by its number. -/
structure Script where
  lease : Nat → Except Service.JobError (List Link)
  client : Nat → Bool
  fetch : String → Nat → Outcome

/-- Do two plans read pages alike and try an address as often? In all else, such as the number of fetches open
at a time, they may differ. -/
structure Plan.Alike (plan other : Plan) : Prop where
  pattern : plan.pattern = other.pattern
  listing : plan.listing = other.listing
  giveUpAfter : plan.settings.giveUpAfter = other.settings.giveUpAfter

namespace Script

variable {script : Script} {plan other : Plan}

/-- The links that an answer of the coordinator lends. -/
def lends (script : Script) (number : Nat) : List Link :=
  match script.lease number with
  | .ok links => links
  | .error _ => []

/-- The links of the first leases. -/
def batches (script : Script) (leases : Nat) : List (List Link) :=
  (List.range leases).map script.lends

/-- What is due after so many leases and the given attempts. -/
def dueAfter (script : Script) (plan : Plan) (leases : Nat) (attempts : List Attempt) : List Target :=
  due plan.settings.giveUpAfter (script.batches leases) (visitsOf attempts)

/-- The attempt at a target that comes after others. -/
def tell (script : Script) (plan : Plan) (attempts : List Attempt) (target : Target) : Attempt :=
  let fetches := fetchesAt (visitsOf attempts) target.url
  let outcome := script.fetch target.url fetches
  let finding := outcome.find plan target.url (listedValue (visitsOf attempts) target.url)
  { target, finding, outcome, again := finding.fails && fetches < plan.settings.giveUpAfter }

/-- Where a crawl stops: nothing is due and no more links are lent, or a client cannot be made. -/
def Halts (script : Script) (plan : Plan) (cycles leases : Nat) (attempts : List Attempt) : Prop :=
  script.dueAfter plan leases attempts = [] ∧ script.lends leases = [] ∨
    script.dueAfter plan leases attempts ≠ [] ∧ script.client cycles = false

/-- The rounds of a crawl by a script, with the cycles, the leases and the attempts so far. -/
inductive Rounds (script : Script) (plan : Plan) : Nat → Nat → List Attempt → Prop
  | start : Rounds script plan 0 0 []
  /-- Links are leased when nothing is due. -/
  | lease {cycles leases : Nat} {attempts : List Attempt} (rounds : Rounds script plan cycles leases attempts)
      (dry : script.dueAfter plan leases attempts = []) (lent : script.lends leases ≠ []) :
      Rounds script plan cycles (leases + 1) attempts
  /-- A cycle fetches everything that is due. -/
  | cycle {cycles leases : Nat} {attempts round : List Attempt}
      (rounds : Rounds script plan cycles leases attempts)
      (busy : script.dueAfter plan leases attempts ≠ []) (made : script.client cycles = true)
      (once : Once (script.batches leases) (visitsOf attempts))
      (all : round.Perm ((script.dueAfter plan leases attempts).map (script.tell plan attempts))) :
      Rounds script plan (cycles + 1) leases (attempts ++ round)

end Script

/-- What is due does not depend on the order of the visits. -/
theorem due_perm {giveUpAfter : Nat} {batches : List (List Link)} {visits others : List Visit}
    (same : visits.Perm others) : (due giveUpAfter batches visits).Perm (due giveUpAfter batches others) := by
  -- What is due is read off counts and links, neither of which knows an order.
  have fetches (url : String) : fetchesAt visits url = fetchesAt others url := (same.map _).countP_eq _
  have failures (url : String) : failuresAt visits url = failuresAt others url := same.countP_eq _
  simp only [due, fetches, failures]
  exact (List.Perm.append_left _ (same.flatMap_right _)).filter _

namespace Script

variable {script : Script} {plan other : Plan} {cycles leases cycles' leases' : Nat}
  {attempts attempts' : List Attempt}

/-- What is due does not depend on the order of the attempts. -/
theorem dueAfter_perm (same : attempts.Perm attempts') :
    (script.dueAfter plan leases attempts).Perm (script.dueAfter plan leases attempts') :=
  due_perm (same.map _)

/-- The attempt at a target depends on the fetches of its address before and on the value given for it. -/
theorem tell_congr {target : Target}
    (fetches : fetchesAt (visitsOf attempts) target.url = fetchesAt (visitsOf attempts') target.url)
    (value : listedValue (visitsOf attempts) target.url = listedValue (visitsOf attempts') target.url) :
    script.tell plan attempts target = script.tell plan attempts' target := by
  simp only [tell, fetches, value]

/-- It does not depend on the order of the attempts before. -/
theorem tell_perm (same : attempts.Perm attempts') (once : Once (script.batches leases) (visitsOf attempts)) :
    script.tell plan attempts = script.tell plan attempts' :=
  funext fun _ => tell_congr (((same.map _).map _).countP_eq _) (listedValue_perm (same.map _) once.pages _)

/-- Whether a crawl stops does not depend on it either. -/
theorem Halts.perm (halts : script.Halts plan cycles leases attempts) (same : attempts.Perm attempts') :
    script.Halts plan cycles leases attempts' := by
  -- An order does not make anything due where nothing was.
  have due : (script.dueAfter plan leases attempts).Perm (script.dueAfter plan leases attempts') :=
    dueAfter_perm same
  refine halts.imp (fun ⟨dry, spent⟩ => ⟨?_, spent⟩) fun ⟨busy, unmade⟩ => ⟨fun dry => busy ?_, unmade⟩
  · exact (dry ▸ due).symm.eq_nil
  · exact (dry ▸ due).eq_nil

/-- After as many rounds two crawls by a script have made the same attempts. -/
theorem Rounds.perm (first : Rounds script plan cycles leases attempts)
    (second : Rounds script plan cycles' leases' attempts') (together : cycles + leases = cycles' + leases') :
    cycles = cycles' ∧ leases = leases' ∧ attempts.Perm attempts' := by
  induction first generalizing cycles' leases' attempts' with
  | start =>
    cases second with
    | start => exact ⟨rfl, rfl, .nil⟩
    | lease | cycle => omega
  | @lease cycles leases attempts rounds dry lent ih =>
    cases second with
    | start => omega
    | lease rounds' dry' lent' =>
      obtain ⟨rfl, rfl, same⟩ := ih rounds' (by omega)
      exact ⟨rfl, rfl, same⟩
    | cycle rounds' busy =>
      -- Something is due in the one only if it is in the other.
      obtain ⟨rfl, rfl, same⟩ := ih rounds' (by omega)
      exact absurd (dry ▸ dueAfter_perm same).symm.eq_nil busy
  | @cycle cycles leases attempts round rounds busy made once all ih =>
    cases second with
    | start => omega
    | lease rounds' dry =>
      obtain ⟨rfl, rfl, same⟩ := ih rounds' (by omega)
      exact absurd (dry ▸ dueAfter_perm same).eq_nil busy
    | cycle rounds' busy' made' once' all' =>
      obtain ⟨rfl, rfl, same⟩ := ih rounds' (by omega)
      refine ⟨rfl, rfl, same.append (all.trans (.trans ?_ all'.symm))⟩
      rw [tell_perm same once]
      exact (dueAfter_perm same).map _

/-- A crawl does not stop before its last round. -/
theorem Rounds.before (rounds : Rounds script plan cycles leases attempts) {count : Nat}
    (early : count < cycles + leases) : ∃ cycles' leases' attempts',
      Rounds script plan cycles' leases' attempts' ∧ cycles' + leases' = count ∧
        ¬script.Halts plan cycles' leases' attempts' := by
  -- The last round was possible, so that the crawl had not stopped before it.
  induction rounds with
  | start => omega
  | @lease cycles leases attempts rounds dry lent ih =>
    by_cases last : count = cycles + leases
    · refine ⟨cycles, leases, attempts, rounds, last.symm, ?_⟩
      rintro (⟨-, spent⟩ | ⟨busy, -⟩)
      · exact lent spent
      · exact busy dry
    · exact ih (by omega)
  | @cycle cycles leases attempts round rounds busy made once all ih =>
    by_cases last : count = cycles + leases
    · refine ⟨cycles, leases, attempts, rounds, last.symm, ?_⟩
      rintro (⟨dry, -⟩ | ⟨-, unmade⟩)
      · exact busy dry
      · simp [made] at unmade
    · exact ih (by omega)

/-- A crawl has stopped after no more rounds than another one. -/
theorem Rounds.stops (first : Rounds script plan cycles leases attempts)
    (halts : script.Halts plan cycles leases attempts) (second : Rounds script plan cycles' leases' attempts') :
    cycles' + leases' ≤ cycles + leases := by
  -- Otherwise the other crawl would have gone on from where this one has stopped.
  refine Nat.le_of_not_lt fun later => ?_
  obtain ⟨cycles₁, leases₁, attempts₁, rounds, together, goesOn⟩ := second.before later
  obtain ⟨rfl, rfl, same⟩ := first.perm rounds together.symm
  exact goesOn (halts.perm same)

/-- Two crawls by a script stop after the same leases and attempts. -/
theorem Rounds.stops_alike (first : Rounds script plan cycles leases attempts)
    (second : Rounds script plan cycles' leases' attempts') (halts : script.Halts plan cycles leases attempts)
    (halts' : script.Halts plan cycles' leases' attempts') : leases = leases' ∧ attempts.Perm attempts' :=
  (first.perm second (Nat.le_antisymm (second.stops halts' first) (first.stops halts second))).2

/-- Plans that are alike expect the same attempts. -/
theorem tell_alike (alike : plan.Alike other) : script.tell plan = script.tell other := by
  -- An attempt is told by the pattern, the listing and the limit of the plan.
  have find (outcome : Outcome) (url value : String) :
      outcome.find plan url value = outcome.find other url value := by
    cases outcome <;> simp only [Outcome.find, alike.pattern, alike.listing]
  funext attempts target
  simp only [tell, find, alike.giveUpAfter]

/-- Plans that are alike have the same due. -/
theorem dueAfter_alike (alike : plan.Alike other) : script.dueAfter plan = script.dueAfter other := by
  funext leases attempts
  rw [dueAfter, alike.giveUpAfter, dueAfter]

/-- Plans that are alike stop at the same rounds. -/
theorem Halts.alike (halts : script.Halts plan cycles leases attempts) (alike : plan.Alike other) :
    script.Halts other cycles leases attempts := by
  rwa [Halts, dueAfter_alike alike] at halts

/-- Plans that are alike go through the same rounds. -/
theorem Rounds.alike (rounds : Rounds script plan cycles leases attempts) (alike : plan.Alike other) :
    Rounds script other cycles leases attempts := by
  -- By the rounds, in each of which the same is due and told.
  induction rounds with
  | start => exact .start
  | lease rounds dry lent ih => exact .lease ih (dueAfter_alike alike ▸ dry) lent
  | cycle rounds busy made once all ih =>
    rw [dueAfter_alike alike, tell_alike alike] at all
    exact .cycle ih (dueAfter_alike alike ▸ busy) made once all

end Script

end Harvest.Crawl

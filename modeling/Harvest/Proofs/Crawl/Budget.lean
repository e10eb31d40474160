import Harvest.Proofs.Crawl.Fates
import Mathlib.Algebra.Order.Group.Multiset
import Mathlib.Data.List.Perm.Subperm

/-! A crawl visits each target as often as it was queued and put back. Each address is put back a limited number
of times, however its targets and failures come about. -/

namespace Harvest.Crawl

/-- The targets of leased links. -/
def seeded (batches : List (List Link)) : List Target :=
  batches.flatten.map fun link => ⟨link.url, 1⟩

/-- The targets of the detail pages that visits have found. -/
def discovered (visits : List Visit) : List Target :=
  visits.flatMap Visit.details

/-- The targets that leases and visits have queued. -/
def enqueued (batches : List (List Link)) (visits : List Visit) : List Target :=
  seeded batches ++ discovered visits

/-- Is the target of a visit put back, if others came before? -/
def Visit.returns (giveUpAfter : Nat) (earlier : List Visit) (visit : Visit) : Bool :=
  visit.finding.fails && failuresAt earlier visit.target.url < giveUpAfter

/-- The targets that visits put back, if others came before. -/
def returnedAfter (giveUpAfter : Nat) : List Visit → List Visit → List Target
  | _, [] => []
  | earlier, visit :: later =>
    (if visit.returns giveUpAfter earlier then [visit.target] else []) ++
      returnedAfter giveUpAfter (earlier ++ [visit]) later

/-- The targets that the visits of a crawl put back. -/
def returned (giveUpAfter : Nat) (visits : List Visit) : List Target :=
  returnedAfter giveUpAfter [] visits

/-- The number of targets with an address. -/
def targetsAt (targets : List Target) (url : String) : Nat :=
  targets.countP fun target => target.url = url

/-- The number of visits of an address. -/
def fetchesAt (visits : List Visit) (url : String) : Nat :=
  targetsAt (visits.map Visit.target) url

/-- The visits of an address are those among the first ones and those among the others. -/
theorem fetchesAt_append (visits others : List Visit) (url : String) :
    fetchesAt (visits ++ others) url = fetchesAt visits url + fetchesAt others url := by
  simp only [fetchesAt, targetsAt, List.map_append, List.countP_append]

/-- An address fails at most as often as it is visited. -/
theorem failuresAt_le (visits : List Visit) (url : String) : failuresAt visits url ≤ fetchesAt visits url := by
  -- A visit that fails at an address is a visit there.
  rw [fetchesAt, targetsAt, List.countP_map]
  refine List.countP_mono_left fun visit _ failed => ?_
  exact decide_eq_true (of_decide_eq_true failed).2.symm

/-- One visit more puts back its own target at most. -/
theorem returned_append_singleton (giveUpAfter : Nat) (visits : List Visit) (visit : Visit) :
    returned giveUpAfter (visits ++ [visit]) = returned giveUpAfter visits ++
      if visit.returns giveUpAfter visits then [visit.target] else [] := by
  have goesOn (earlier : List Visit) : returnedAfter giveUpAfter earlier (visits ++ [visit]) =
      returnedAfter giveUpAfter earlier visits ++
        if visit.returns giveUpAfter (earlier ++ visits) then [visit.target] else [] := by
    -- The visits in front are taken one by one.
    induction visits generalizing earlier with
    | nil => simp [returnedAfter]
    | cons first rest ih => simp [returnedAfter, ih]
  exact goesOn []

/-- With one visit more its address has failed once more, or not. -/
theorem failuresAt_append_singleton (visits : List Visit) (visit : Visit) (url : String) :
    failuresAt (visits ++ [visit]) url =
      failuresAt visits url + if visit.finding.fails ∧ url = visit.target.url then 1 else 0 := by
  rw [failuresAt, failuresAt, List.countP_append, List.countP_singleton]
  simp only [decide_eq_true_eq]

/-- An address is put back at each of its failures, up to the limit. -/
theorem targetsAt_returned (giveUpAfter : Nat) (visits : List Visit) (url : String) :
    targetsAt (returned giveUpAfter visits) url = min (failuresAt visits url) giveUpAfter := by
  induction visits using List.reverseRecOn with
  | nil => simp [returned, returnedAfter, failuresAt, targetsAt]
  | append_singleton visits visit ih =>
    rw [returned_append_singleton, targetsAt, List.countP_append, ← targetsAt, ih, failuresAt_append_singleton]
    -- Only a failure of the address itself counts, and it puts the target back below the limit.
    by_cases counts : visit.finding.fails = true ∧ url = visit.target.url
    · obtain ⟨fails, rfl⟩ := counts
      by_cases few : failuresAt visits visit.target.url < giveUpAfter
      · simp [Visit.returns, fails, few]
        omega
      · simp [Visit.returns, fails, few]
        omega
    · rw [if_neg counts, Nat.add_zero, Nat.add_eq_left]
      split
      · rename_i back
        have fails : visit.finding.fails = true := (Bool.and_eq_true_iff.mp back).1
        have other : ¬visit.target.url = url := fun same => counts ⟨fails, same.symm⟩
        simp [other]
      · rfl

namespace Schedule.Run

variable {giveUpAfter : Nat} {batches : List (List Link)} {visits : List Visit} {schedule : Schedule}

/-- A queue puts back what returns by the visits so far. -/
theorem putsBack {front back : List Target} {visit : Visit} {queue : Queue}
    (run : Run giveUpAfter batches visits ⟨front ++ visit.target :: back, queue⟩) :
    queue.putsBack visit = visit.returns giveUpAfter visits := by
  -- The queue has counted the failures of the visits so far.
  obtain ⟨limit, counted⟩ := run.attempts
  simp only at limit counted
  rw [Queue.putsBack, Visit.returns, limit, counted]

/-- What is visited and what is yet to be visited has been queued or put back, each target as often. -/
theorem conserves (run : Run giveUpAfter batches visits schedule) :
    (visits.map Visit.target ++ schedule.outstanding).Perm
      (enqueued batches visits ++ returned giveUpAfter visits) := by
  rw [← Multiset.coe_eq_coe]
  induction run with
  | start => rfl
  | @seed batches visits queue run dry links ih =>
    simp only [outstanding, dry, Queue.seed, enqueued, seeded, List.flatten_append, List.flatten_singleton,
      List.map_append, List.nil_append, List.append_nil, ← Multiset.coe_add] at ih ⊢
    rw [ih]
    ac_rfl
  | drain run ih => simpa [outstanding, Queue.drain] using ih
  | @visit batches visits front back visit queue run ih =>
    rw [returned_append_singleton, ← run.putsBack, outstanding, (queue.takes visit).pending]
    simp only [outstanding, enqueued, discovered, List.map_append, List.flatMap_append, List.map_singleton,
      List.flatMap_singleton, ← Multiset.coe_add, ← Multiset.cons_coe, ← Multiset.singleton_add,
      Multiset.coe_nil, add_zero] at ih ⊢
    -- The target of the visit is taken out, and what the visit finds and puts back comes in.
    generalize (if queue.putsBack visit = true then [visit.target] else []) = again
    calc
      _ = ((visits.map Visit.target : Multiset Target) + (front + ({visit.target} + back) + queue.pending)) +
          (visit.details + again) := by ac_rfl
      _ = _ := by
        rw [ih]
        ac_rfl

/-- What is visited and what is yet to be visited at an address has been queued or put back there. -/
theorem targetsAt_visits (run : Run giveUpAfter batches visits schedule) (url : String) :
    targetsAt (visits.map Visit.target) url + targetsAt schedule.outstanding url =
      targetsAt (enqueued batches visits) url + min (failuresAt visits url) giveUpAfter := by
  rw [← targetsAt_returned]
  simpa only [targetsAt, List.countP_append] using run.conserves.countP_eq _

/-- Whatever is visited, or yet to be visited, was queued. -/
theorem mem_enqueued (run : Run giveUpAfter batches visits schedule) :
    ∀ target ∈ visits.map Visit.target ++ schedule.outstanding, target ∈ enqueued batches visits := by
  -- A target that is put back was to be visited before.
  induction run with
  | start => simp [outstanding]
  | @seed batches visits queue run dry links ih =>
    intro target among
    simp only [enqueued, seeded, outstanding, Queue.seed, dry, List.flatten_append, List.flatten_singleton,
      List.map_append, List.mem_append, List.nil_append, List.append_nil] at ih among ⊢
    rcases among with visited | new
    · rcases ih target visited with old | found
      · exact .inl (.inl old)
      · exact .inr found
    · exact .inl (.inr new)
  | drain run ih => simpa [outstanding, Queue.drain] using ih
  | @visit batches visits front back visit queue run ih =>
    have own : visit.target ∈ enqueued batches visits := ih _ (by simp [outstanding])
    have earlier (target : Target) (known : target ∈ enqueued batches visits ∨ target ∈ visit.details) :
        target ∈ enqueued batches (visits ++ [visit]) := by
      simpa [enqueued, discovered, or_assoc] using known
    intro target among
    refine earlier target ?_
    rw [outstanding, (queue.takes visit).pending] at among
    simp only [outstanding, List.mem_append, List.mem_cons, List.map_append, List.map_singleton,
      List.not_mem_nil, or_false] at ih among
    -- By where the target stands: among the visited ones, before or behind the visited one, in the queue, or at its
    -- end.
    rcases among with (visited | rfl) | (front | back) | (pending | found) | again
    · exact .inl (ih target (.inl visited))
    · exact .inl own
    · exact .inl (ih target (.inr (.inl (.inl front))))
    · exact .inl (ih target (.inr (.inl (.inr (.inr back)))))
    · exact .inl (ih target (.inr (.inr pending)))
    · exact .inr found
    · split at again
      · exact .inl (List.mem_singleton.mp again ▸ own)
      · cases again

end Schedule.Run

/-- The detail pages that a visit finds are one level below its target, which is not too deep. -/
theorem Visit.depth_of_mem_details {visit : Visit} {target : Target} (found : target ∈ visit.details) :
    visit.target.depth < maxDepth ∧ target.depth = visit.target.depth + 1 := by
  -- At the last level no pages are found.
  unfold details at found
  split at found
  · rename_i shallow
    obtain ⟨page, -, rfl⟩ := List.mem_map.mp found
    exact ⟨shallow, rfl⟩
  · cases found

namespace Schedule.Run

variable {giveUpAfter : Nat} {batches : List (List Link)} {visits : List Visit} {schedule : Schedule}

/-- Only visits at depth one find detail pages, and these are at depth two. -/
theorem depth_of_details (run : Run giveUpAfter batches visits schedule) {visit : Visit} (among : visit ∈ visits)
    {target : Target} (found : target ∈ visit.details) : visit.target.depth = 1 ∧ target.depth = 2 := by
  -- No target of a visit is above the first level, so that one level is left only.
  obtain ⟨shallow, below⟩ := Visit.depth_of_mem_details found
  have leased := run.depth.2 visit among
  simp only [maxDepth] at shallow
  omega

/-- Every target that is ever queued is at depth one or two. -/
theorem depth_of_enqueued (run : Run giveUpAfter batches visits schedule) {target : Target}
    (queued : target ∈ enqueued batches visits) : target.depth = 1 ∨ target.depth = 2 := by
  -- A queued target is a leased link or was found by a visit.
  rcases List.mem_append.mp queued with leased | found
  · obtain ⟨link, -, rfl⟩ := List.mem_map.mp leased
    exact .inl rfl
  · obtain ⟨visit, among, own⟩ := List.mem_flatMap.mp found
    exact .inr (run.depth_of_details among own).2

end Schedule.Run

/-- A list in which everything is from another one, no more than a number of times oftener than there, is not
longer than so many copies of that list and one. -/
theorem length_le_of_count {α : Type} [DecidableEq α] {list keys : List α} {more : Nat}
    (among : ∀ key ∈ list, key ∈ keys) (bound : ∀ key, list.count key ≤ keys.count key + more) :
    list.length ≤ (more + 1) * keys.length := by
  -- Everything stands in the copies as often as in the list, or oftener.
  have copies : list.Subperm (List.replicate (more + 1) keys).flatten := by
    refine List.subperm_ext_iff.mpr fun key own => ?_
    have one : 1 ≤ keys.count key := List.one_le_count_iff.mpr (among key own)
    have often : (List.replicate (more + 1) keys).flatten.count key = (more + 1) * keys.count key := by
      simp [List.count_flatten]
    rw [often]
    calc list.count key ≤ keys.count key + more := bound key
      _ ≤ keys.count key + more * keys.count key := Nat.add_le_add_left (Nat.le_mul_of_pos_right more one) _
      _ = (more + 1) * keys.count key := by rw [Nat.add_mul, Nat.one_mul, Nat.add_comm]
  have length : (List.replicate (more + 1) keys).flatten.length = (more + 1) * keys.length := by
    simp [List.length_flatten]
  exact length ▸ copies.length_le

namespace Schedule.Run

variable {giveUpAfter : Nat} {batches : List (List Link)} {visits : List Visit} {schedule : Schedule}

/-- Of the targets with an address, those that are visited or yet to be visited are at most as many as were
queued, and as often as the address may be put back. -/
theorem countP_le (run : Run giveUpAfter batches visits schedule) {chosen : Target → Bool} {url : String}
    (own : ∀ target, chosen target = true → target.url = url) :
    (visits.map Visit.target ++ schedule.outstanding).countP chosen ≤
      (enqueued batches visits).countP chosen + giveUpAfter := by
  -- What was put back is limited at the address.
  have limited : (returned giveUpAfter visits).countP chosen ≤ giveUpAfter := by
    calc (returned giveUpAfter visits).countP chosen ≤ targetsAt (returned giveUpAfter visits) url :=
          List.countP_mono_left fun target _ picked => by simpa using own target picked
      _ ≤ giveUpAfter := by
        rw [targetsAt_returned]
        exact Nat.min_le_right ..
  rw [run.conserves.countP_eq, List.countP_append]
  omega

/-- An address is visited, or yet to be visited, as often as it was queued and may be put back, at most. -/
theorem targetsAt_le (run : Run giveUpAfter batches visits schedule) (url : String) :
    targetsAt (visits.map Visit.target ++ schedule.outstanding) url ≤
      targetsAt (enqueued batches visits) url + giveUpAfter :=
  run.countP_le fun target picked => by simpa using picked

/-- The number of visits is limited by the number of targets queued. -/
theorem length_visits_le (run : Run giveUpAfter batches visits schedule) :
    visits.length ≤ (giveUpAfter + 1) * (enqueued batches visits).length := by
  -- Each address is visited no more than a number of times oftener than it was queued.
  have short := @length_le_of_count _ _ ((visits.map Visit.target).map (·.url))
    ((enqueued batches visits).map (·.url)) giveUpAfter
    (fun url among => by
      obtain ⟨target, visited, rfl⟩ := List.mem_map.mp among
      exact List.mem_map_of_mem (run.mem_enqueued target (List.mem_append_left _ visited)))
    (fun url => by
      have limited := run.targetsAt_le url
      simp only [targetsAt, List.count, List.countP_append, List.countP_map, Function.comp_def,
        beq_eq_decide] at limited ⊢
      omega)
  simpa using short

/-- A queued target at depth one is a leased link. -/
theorem mem_seeded (run : Run giveUpAfter batches visits schedule) {target : Target}
    (queued : target ∈ enqueued batches visits) (first : target.depth = 1) : target ∈ seeded batches := by
  -- A detail page is at depth two.
  refine (List.mem_append.mp queued).resolve_right fun found => ?_
  obtain ⟨visit, among, own⟩ := List.mem_flatMap.mp found
  have second := (run.depth_of_details among own).2
  omega

/-- The number of visits at depth one is limited by the number of links leased. -/
theorem length_first_visits_le (run : Run giveUpAfter batches visits schedule) :
    (visits.countP fun visit => visit.target.depth = 1) ≤ (giveUpAfter + 1) * batches.flatten.length := by
  have short := @length_le_of_count _ _ (((visits.map Visit.target).filter (·.depth = 1)).map (·.url))
    ((seeded batches).map (·.url)) giveUpAfter
    (fun url among => by
      obtain ⟨target, visited, rfl⟩ := List.mem_map.mp among
      obtain ⟨visited, first⟩ := List.mem_filter.mp visited
      refine List.mem_map_of_mem (run.mem_seeded ?_ (by simpa using first))
      exact run.mem_enqueued target (List.mem_append_left _ visited))
    (fun url => by
      -- Detail pages with the address are deeper, so that they do not count.
      have limited := @countP_le _ _ _ _ run (fun target => target.url = url ∧ target.depth = 1) url
        fun target picked => (by simpa using picked : target.url = url ∧ target.depth = 1).1
      have deeper : (discovered visits).countP (fun target => target.url = url ∧ target.depth = 1) = 0 := by
        refine List.countP_eq_zero.mpr fun target found => ?_
        obtain ⟨visit, among, own⟩ := List.mem_flatMap.mp found
        simp [(run.depth_of_details among own).2]
      have fewer : (seeded batches).countP (fun target => target.url = url ∧ target.depth = 1) ≤
          (seeded batches).countP (·.url = url) :=
        List.countP_mono_left fun target _ picked => by
          simpa using (by simpa using picked : target.url = url ∧ target.depth = 1).1
      rw [enqueued, List.countP_append, List.countP_append, deeper] at limited
      simp only [List.count, List.countP_map, List.countP_filter, Function.comp_def, beq_eq_decide,
        Bool.decide_and] at limited fewer ⊢
      omega)
  simpa [seeded, List.countP_eq_length_filter, List.filter_map, Function.comp_def] using short

end Schedule.Run

end Harvest.Crawl

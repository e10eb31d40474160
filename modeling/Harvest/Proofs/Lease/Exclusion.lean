import Harvest.Proofs.Lease.LifeCycle

/-! Leases exclude each other, however the requests of any number of coordinators come in between: a link
that one worker was given is given to another one only after it was taken back. -/

namespace Harvest

/-- No other worker than the given one has the link, and it is not open to any. -/
def Link.TakenBy (worker : String) (link : Link) : Prop :=
  link.status ≠ .active ∧ (link.status = .running → link.worker = worker)

/-- A link that a worker has taken stays so with every step of its life cycle, unless a reclaim takes it
back. -/
theorem Link.Moves.takenBy {request : Lease.Request} {before after : Link} {worker : String}
    (moves : Moves request before after) (taken : before.TakenBy worker) :
    after.TakenBy worker ∨
      (∃ staleAfter, request = .reclaim staleAfter) ∧ before.status = .running ∧ after.status = .active := by
  -- A link that is taken is not active, so that it cannot be leased again.
  cases moves with
  | stays => exact .inl taken
  | leased now active _ => exact absurd active taken.1
  | takenBack now leased => exact .inr ⟨⟨_, rfl⟩, leased, rfl⟩
  | completed now _ _ => exact .inl (by simp [TakenBy, restamped])
  | cancelled now _ _ => exact .inl (by simp [TakenBy, restamped])

namespace Lease

/-- The worker and the links that a lease gives to it, once the lease has come to a good end. -/
def Session.given? : Session → Option (String × List Link)
  | ⟨_, .allocate _ worker _, .done (.ok leased)⟩ => some (worker, leased)
  | _ => none

/-- Only leases give links. -/
theorem Session.eq_of_given? {session : Session} {worker : String} {leased : List Link}
    (given : session.given? = some (worker, leased)) :
    ∃ now ruleId size, session = ⟨now, .allocate ruleId worker size, .done (.ok leased)⟩ := by
  -- Only one kind of session is looked at.
  unfold given? at given
  split at given
  · cases given
    exact ⟨_, _, _, rfl⟩
  · cases given

namespace System

variable {name : Nat → String} {actions : List Action}

/-- At a moment the last read of a lease is answered, and the worker is given the leased links. -/
def Returns (name : Nat → String) (actions : List Action) (moment : Nat) (worker : String)
    (leased : List Link) : Prop :=
  ∃ index, actions[moment]? = some (.advance index) ∧
    (after name (actions.take moment)).sessions[index]?.map Session.isDone = some false ∧
    (after name (actions.take (moment + 1))).sessions[index]?.bind Session.given? = some (worker, leased)

/-- At a moment the update of a reclaim moves a link from a lease back to the active ones. -/
def TakesBack (name : Nat → String) (actions : List Action) (moment : Nat) (id : String) : Prop :=
  ∃ index staleAfter, actions[moment]? = some (.advance index) ∧
    (after name (actions.take moment)).sessions[index]?.map Session.request = some (.reclaim staleAfter) ∧
    ∃ link link' : Link, link.id = id ∧ link'.id = id ∧ link.status = .running ∧ link'.status = .active ∧
      link.members ∈ (after name (actions.take moment)).linkDocuments ∧
      link'.members ∈ (after name (actions.take (moment + 1))).linkDocuments

/-- The links that a worker is given were leased to it in the store when the last read was answered. -/
theorem Returns.leased (injective : Function.Injective name) {moment : Nat} {worker : String}
    {leased : List Link} (returns : Returns name actions moment worker leased) {book : Book}
    {known : Nat → Knowledge} (holds : (after name (actions.take moment)).Holds name book known) :
    ∀ link ∈ leased, link ∈ book.links ∧ link.worker = worker ∧ link.status = .running := by
  obtain ⟨index, acted, unfinished, ended⟩ := returns
  -- The session had still a question to ask, and the answer to it is the one that ends it.
  obtain ⟨session, present, notDone⟩ := Option.map_eq_some_iff.mp unfinished
  obtain ⟨_, ended, given⟩ := Option.bind_eq_some_iff.mp ended
  obtain ⟨now, ruleId, size, rfl⟩ := Session.eq_of_given? given
  cases asking : session.course with
  | done result => simp [Session.isDone, asking] at notDone
  | ask question next =>
    obtain ⟨after', known', holds', turn⟩ := holds.advances injective present asking
    rw [after_take_succ acted] at ended
    simp only [step, present] at ended
    -- The session has ended within its terms, with what its last question has let it know.
    have ends := holds'.courses index _ ended
    rw [Function.update_self] at ends
    intro link among
    obtain ⟨read, ofWorker, running⟩ := ends link among
    exact ⟨turn.read link read, ofWorker, running⟩

/-- From the moment on at which a link is taken by a worker, it stays so until a reclaim takes it back. -/
theorem takenBy_until (injective : Function.Injective name) {id worker : String} {since : Nat}
    (taken : ∃ book known, (after name (actions.take since)).Holds name book known ∧
      ∃ link ∈ book.links, link.id = id ∧ link.TakenBy worker) {moment : Nat} (later : since ≤ moment) :
    (∃ book known, (after name (actions.take moment)).Holds name book known ∧
      ∃ link ∈ book.links, link.id = id ∧ link.TakenBy worker) ∨
    ∃ between, since ≤ between ∧ between < moment ∧ TakesBack name actions between id := by
  -- Every action keeps the link with its worker, or it is the one that takes it back.
  induction later with
  | refl => exact .inl taken
  | @step moment later ih =>
    rcases ih with ⟨book, known, holds, link, among, rfl, still⟩ | ⟨between, start, earlier, back⟩
    · cases acted : actions[moment]? with
      | none =>
        -- The run is over, and nothing happens any more.
        refine .inl ⟨book, known, ?_, link, among, rfl, still⟩
        rwa [List.take_add_one, acted, Option.toList_none, List.append_nil]
      | some action =>
        obtain ⟨book', known', holds', moved, added, links', moves⟩ := holds.steps injective action
        rw [← after_take_succ acted] at holds'
        obtain ⟨link', among', move⟩ := exists_of_mem_before moves among
        have stored : link' ∈ book'.links := links' ▸ List.mem_append_left _ among'
        have same : link'.id = link.id := move.persists.id
        have keptOn : link'.TakenBy worker ∨ TakesBack name actions moment link.id := by
          rcases move with rfl | ⟨index, ⟨now, request, course⟩, rfl, present, move⟩
          · exact .inl still
          rcases move.takenBy still with still' | ⟨⟨staleAfter, rfl⟩, running, active⟩
          · exact .inl still'
          · refine .inr ⟨index, staleAfter, acted, by rw [present, Option.map_some], link, link', rfl, same,
              running, active, ?_, ?_⟩
            · rw [linkDocuments, holds.kept.links]
              exact List.mem_map_of_mem among
            · rw [linkDocuments, holds'.kept.links]
              exact List.mem_map_of_mem stored
        rcases keptOn with still' | back
        · exact .inl ⟨book', known', holds', link', stored, same, still'⟩
        · exact .inr ⟨moment, later, Nat.lt_succ_self _, back⟩
    · exact .inr ⟨between, start, Nat.lt_succ_of_lt earlier, back⟩

/-- If two workers are given the same link one after the other, it was taken back in between. -/
theorem takesBack_between (injective : Function.Injective name) {first second : Nat}
    {worker worker' : String} {leased leased' : List Link}
    (returns : Returns name actions first worker leased)
    (returns' : Returns name actions second worker' leased') (ordered : first < second)
    (differ : worker ≠ worker') {link link' : Link} (among : link ∈ leased) (among' : link' ∈ leased')
    (same : link.id = link'.id) :
    ∃ moment, first < moment ∧ moment < second ∧ TakesBack name actions moment link.id := by
  -- From the first lease on the link is taken by its worker, up to the second one or a reclaim.
  obtain ⟨book, known, holds⟩ := Holds.reached injective (actions.take first)
  -- When its last read is answered, the link is leased to the first worker in the store.
  obtain ⟨stored, ofWorker, running⟩ := returns.leased injective holds link among
  have taken : link.TakenBy worker := ⟨by simp [running], fun _ => ofWorker⟩
  rcases takenBy_until injective ⟨book, known, holds, link, stored, rfl, taken⟩ (Nat.le_of_lt ordered) with
    ⟨book', known', holds', held, stored', same', -, still⟩ | ⟨moment, from_, earlier, back⟩
  · -- The link would be leased to both workers at once.
    obtain ⟨stored'', ofWorker', running'⟩ := returns'.leased injective holds' link' among'
    have itself : held = link' :=
      List.inj_on_of_nodup_map holds'.supply.unique stored' stored'' (same'.trans same)
    subst itself
    exact absurd ((still running').symm.trans ofWorker') differ
  · refine ⟨moment, Nat.lt_of_le_of_ne from_ ?_, earlier, back⟩
    -- What happens when the first worker is given the link is no reclaim.
    rintro rfl
    obtain ⟨index, acted, -, ended⟩ := returns
    obtain ⟨index', _, acted', present, -⟩ := back
    cases acted.symm.trans acted'
    obtain ⟨_, ended, given⟩ := Option.bind_eq_some_iff.mp ended
    obtain ⟨_, _, _, rfl⟩ := Session.eq_of_given? given
    have still := request_step name present (.advance index)
    rw [← after_take_succ acted, ended] at still
    cases still

/-- If two workers are given the same link, then between the last reads of the two leases an update of a
reclaim has moved that link from its lease back to the active ones; without a reclaim this never happens.
-/
theorem leases_exclusive (injective : Function.Injective name) {first second : Nat}
    {worker worker' : String} {leased leased' : List Link}
    (returns : Returns name actions first worker leased)
    (returns' : Returns name actions second worker' leased') (differ : worker ≠ worker')
    {link link' : Link} (among : link ∈ leased) (among' : link' ∈ leased') (same : link.id = link'.id) :
    ∃ moment, (first < moment ∧ moment < second ∨ second < moment ∧ moment < first) ∧
      TakesBack name actions moment link.id ∧
      ∃ now staleAfter, .begin now (.reclaim staleAfter) ∈ actions := by
  -- Whatever takes a link back works on a reclaim, which somebody has asked for.
  have reclaimed {moment : Nat} {id : String} (back : TakesBack name actions moment id) :
      ∃ now staleAfter, .begin now (.reclaim staleAfter) ∈ actions := by
    obtain ⟨index, staleAfter, -, present, -⟩ := back
    obtain ⟨now, made⟩ := begun_of_present present
    exact ⟨now, staleAfter, List.mem_of_mem_take made⟩
  -- One of the two leases comes first, and it does not matter which.
  rcases Nat.lt_trichotomy first second with ordered | rfl | ordered
  · obtain ⟨moment, after_, before_, back⟩ :=
      takesBack_between injective returns returns' ordered differ among among' same
    exact ⟨moment, .inl ⟨after_, before_⟩, back, reclaimed back⟩
  · -- At one moment only one lease is answered.
    obtain ⟨index, acted, -, ended⟩ := returns
    obtain ⟨index', acted', -, ended'⟩ := returns'
    cases acted.symm.trans acted'
    cases ended.symm.trans ended'
    exact absurd rfl differ
  · obtain ⟨moment, after_, before_, back⟩ :=
      takesBack_between injective returns' returns ordered (Ne.symm differ) among' among same.symm
    exact ⟨moment, .inr ⟨after_, before_⟩, same ▸ back, reclaimed back⟩

/-- On the sample day two workers are given the same link, and it was taken back in between. -/
theorem leases_exclusive_sampleDay :
    Returns Supply.strokes sampleDay 11 "w" [sampleLink "w" 0] ∧
    Returns Supply.strokes sampleDay 17 "v" [sampleLink "v" 10] ∧
    ∃ moment, (11 < moment ∧ moment < 17 ∨ 17 < moment ∧ moment < 11) ∧
      TakesBack Supply.strokes sampleDay moment (sampleLink "w" 0).id ∧
      ∃ now staleAfter, .begin now (.reclaim staleAfter) ∈ sampleDay := by
  -- Both leases of the day are found by running it.
  have returns : Returns Supply.strokes sampleDay 11 "w" [sampleLink "w" 0] :=
    ⟨2, rfl, by decide +kernel, by decide +kernel⟩
  have returns' : Returns Supply.strokes sampleDay 17 "v" [sampleLink "v" 10] :=
    ⟨4, rfl, by decide +kernel, by decide +kernel⟩
  exact ⟨returns, returns', leases_exclusive Supply.strokes_injective returns returns' (by decide)
    (List.mem_singleton_self _) (List.mem_singleton_self _) rfl⟩

end System

end Lease

end Harvest

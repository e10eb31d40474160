import Harvest.Proofs.Lease.Exclusion
import Harvest.Proofs.Lease.Series

/-! What leases hand out: each one takes the first active links of its rule, in order of insertion, and changes
nothing else. Until leases are taken back no link is handed out twice, and leases that follow each other hand out all
active links of the rule. -/

namespace Harvest

/-- A link that is not active stays so with every step of its life cycle but that of a reclaim. -/
theorem Link.Moves.notActive {request : Lease.Request} {before after : Link} (moves : Moves request before after)
    (taken : before.status ≠ .active) (kept : ∀ staleAfter, request ≠ .reclaim staleAfter) :
    after.status ≠ .active := by
  -- A link that is taken stays so, unless a reclaim takes it back.
  have held : before.TakenBy before.worker := ⟨taken, fun _ => rfl⟩
  rcases moves.takenBy held with still | ⟨⟨staleAfter, reclaims⟩, -⟩
  · exact still.1
  · exact absurd reclaims (kept staleAfter)

namespace Lease

/-- A link that is not active is still there after every request but a reclaim, and is not active then. -/
theorem LinksBecome.exists_notActive {before : Ledger} {request : Request} {links : List Link} {link : Link}
    (become : LinksBecome before request links) (among : link ∈ before.links) (taken : link.status ≠ .active)
    (kept : ∀ staleAfter, request ≠ .reclaim staleAfter) :
    ∃ later ∈ links, later.id = link.id ∧ later.status ≠ .active := by
  -- By what the request does: new links come behind those that move.
  cases become with
  | moved moves =>
    obtain ⟨later, member, move⟩ := exists_of_mem_before moves among
    exact ⟨later, member, move.identity.1, move.notActive taken kept⟩
  | generated _ _ moves _ _ _ =>
    obtain ⟨later, member, move⟩ := exists_of_mem_before moves among
    exact ⟨later, List.mem_append_left _ member, move.identity.1, move.notActive taken kept⟩

/-- A lease that no failing call disturbs gives the links that it takes, leased to the worker. -/
theorem allocate_hands {name : Nat → String} {mayFail : Prop} {ledger : Ledger} (never : ¬mayFail)
    (dated : ∀ link ∈ ledger.links, Record.IsTime link.updated) (unique : (ledger.links.map Link.id).Nodup)
    (now : Instant) (ruleId : String) {worker : String} (named : worker ≠ "") (size : Nat) :
    Operation.Leads name mayFail
      (fun outcome after =>
        outcome = .ok ((batch ruleId size ledger.links).map fun link => link.restamped .running worker now) ∧
        after = { ledger with links := handedOut ruleId worker size now ledger.links })
      (allocate now ruleId worker size) ledger := by
  -- Where no call can fail, none is bound to, and the lease runs to its end.
  rintro ⟨store, outages, minted⟩ behind
  obtain rfl : outages = [] := by_contra fun bound => never (behind.outages bound)
  obtain ⟨after, ran, kept, others⟩ := behind.kept.run_allocate dated unique now ruleId named size
  rw [show (⟨store, [], minted⟩ : Coordinator) = .undisturbed store minted from rfl, ran]
  exact ⟨{ ledger with links := handedOut ruleId worker size now ledger.links },
    ⟨kept, fun collection noRules noLinks => (others collection noLinks).trans
      (behind.others collection noRules noLinks), behind.minted, fun some_left => absurd rfl some_left⟩, rfl, rfl⟩

/-- A lease that somebody asks for: when, for which worker, and of how many links at most. -/
structure Draw where
  now : Instant
  worker : String
  size : Nat

namespace Coordinator

/-- Runs a lease, with no call failing. -/
def lease (name : Nat → String) (ruleId : String) (coordinator : Coordinator) (draw : Draw) :
    Except StoreError (List Link) × Coordinator :=
  coordinator.attempt name [] (allocate draw.now ruleId draw.worker draw.size)

/-- Runs leases of a rule one after the other. -/
def leases (name : Nat → String) (ruleId : String) (coordinator : Coordinator) :
    List Draw → List (Except StoreError (List Link)) × Coordinator
  | [] => ([], coordinator)
  | draw :: rest =>
    let (outcome, later) := coordinator.lease name ruleId draw
    let (outcomes, last) := later.leases name ruleId rest
    (outcome :: outcomes, last)

/-- What leases hand out of the links behind the documents. -/
structure HandsOut (name : Nat → String) (coordinator : Coordinator) (links : List Link) : Prop where
  /-- A lease gives the first active links of its rule, leased to the worker. -/
  given : ∀ (ruleId : String) (draw : Draw), draw.worker ≠ "" → (coordinator.lease name ruleId draw).1 =
    .ok ((batch ruleId draw.size links).map fun link => link.restamped .running draw.worker draw.now)
  /-- The documents of these links change, and no others. -/
  changed : ∀ (ruleId : String) (draw : Draw), draw.worker ≠ "" →
    (coordinator.lease name ruleId draw).2.store.documents Lease.links =
      (handedOut ruleId draw.worker draw.size draw.now links).map Link.members ∧
    ∀ collection, collection ≠ Lease.links → (coordinator.lease name ruleId draw).2.store.documents collection =
      coordinator.store.documents collection
  /-- Whatever is worked on between two leases, they give no link twice unless some are taken back. -/
  disjoint : ∀ (ruleId : String) (draw : Draw) (between : List Task) (ruleId' : String) (draw' : Draw),
    draw.worker ≠ "" → draw'.worker ≠ "" →
    (∀ task ∈ between, ∀ staleAfter, task.request ≠ .reclaim staleAfter) →
    ∃ first second, (coordinator.lease name ruleId draw).1 = .ok first ∧
      (((coordinator.lease name ruleId draw).2.workOff name between).lease name ruleId' draw').1 = .ok second ∧
      (first.map Link.id).Disjoint (second.map Link.id)
  /-- Leases of a rule give its active links in turn. One that has room gives none only after all were given. -/
  exhaust : ∀ (ruleId : String) (draws : List Draw), (∀ draw ∈ draws, draw.worker ≠ "") →
    ∃ batches : List (List Link), (coordinator.leases name ruleId draws).1 = batches.map .ok ∧
      batches.flatten.map Link.id = ((available ruleId links).take (draws.map Draw.size).sum).map Link.id ∧
      ∀ draw : Draw, draw.worker ≠ "" → draw.size ≠ 0 →
        (((coordinator.leases name ruleId draws).2.lease name ruleId draw).1 = .ok [] ↔
          batches.flatten.map Link.id = (available ruleId links).map Link.id)

end Coordinator

namespace Ledger.Reached

variable {name : Nat → String} {ledger : Ledger} {coordinator : Coordinator}

/-- A lease hands out what it takes. -/
theorem lease (injective : Function.Injective name) (reached : ledger.Reached name coordinator) (ruleId : String)
    {draw : Draw} (named : draw.worker ≠ "") :
    (coordinator.lease name ruleId draw).1 =
        .ok ((batch ruleId draw.size ledger.links).map fun link => link.restamped .running draw.worker draw.now) ∧
      ({ ledger with links := handedOut ruleId draw.worker draw.size draw.now ledger.links } : Ledger).Reached name
        (coordinator.lease name ruleId draw).2 := by
  -- A lease is a request, so that a ledger stands behind the coordinator afterwards.
  have hands := @allocate_hands name (([] : List Outage) ≠ []) ledger (by simp) reached.valid.dated reached.unique
    draw.now ruleId draw.worker named draw.size
  obtain ⟨after, reached', outcome, rfl⟩ :=
    @Reached.attempt name ledger coordinator injective reached draw.now [] (.allocate ruleId draw.worker draw.size) _
      hands
  exact ⟨outcome, reached'⟩

/-- Leases of a rule give its active links in turn, and leave those behind them. -/
theorem leases (injective : Function.Injective name) (reached : ledger.Reached name coordinator) (ruleId : String)
    (draws : List Draw) (named : ∀ draw ∈ draws, draw.worker ≠ "") :
    ∃ batches : List (List Link), (coordinator.leases name ruleId draws).1 = batches.map .ok ∧
      batches.flatten.map Link.id =
        ((available ruleId ledger.links).take (draws.map Draw.size).sum).map Link.id ∧
      ∃ after : Ledger, after.Reached name (coordinator.leases name ruleId draws).2 ∧
        available ruleId after.links = (available ruleId ledger.links).drop (draws.map Draw.size).sum := by
  induction draws generalizing coordinator ledger with
  | nil => exact ⟨[], rfl, by simp, ledger, reached, by simp⟩
  | cons draw rest ih =>
    obtain ⟨outcome, reached'⟩ := reached.lease injective ruleId (named draw (by simp))
    obtain ⟨batches, outcomes, ids, after, reached'', left⟩ :=
      ih reached' fun other member => named other (by simp [member])
    -- The later leases find what this one leaves.
    rw [available_handedOut reached.unique] at ids left
    refine ⟨((batch ruleId draw.size ledger.links).map fun link => link.restamped .running draw.worker draw.now) ::
      batches, ?_, ?_, after, reached'', ?_⟩
    · rw [Coordinator.leases, List.map_cons, ← outcomes, ← outcome]
    · rw [List.flatten_cons, List.map_append, ids, List.map_cons, List.sum_cons, List.take_add, List.map_append,
        List.map_map]
      rfl
    · rw [left, List.drop_drop, List.map_cons, List.sum_cons]

/-- A reached coordinator hands out the links of its ledger. -/
theorem handsOut (injective : Function.Injective name) (reached : ledger.Reached name coordinator) :
    coordinator.HandsOut name ledger.links where
  given ruleId draw named := (reached.lease injective ruleId named).1
  changed ruleId draw named := by
    obtain ⟨-, reached'⟩ := reached.lease injective ruleId named
    refine ⟨reached'.behind.kept.links, fun collection noLinks => ?_⟩
    -- A lease is no matter of the rules.
    by_cases ruled : collection = rules
    · rw [ruled, reached.behind.kept.rules]
      exact reached'.behind.kept.rules
    · rw [reached.behind.others collection ruled noLinks, reached'.behind.others collection ruled noLinks]
  disjoint ruleId draw between ruleId' draw' named named' kept := by
    obtain ⟨outcome, reached'⟩ := reached.lease injective ruleId named
    -- What the first lease has taken is active no more, up to the second one.
    obtain ⟨later, tracks, taken⟩ := reached'.workOff injective
      (fun ledger' => ∀ link ∈ batch ruleId draw.size ledger.links,
        ∃ later ∈ ledger'.links, later.id = link.id ∧ later.status ≠ .active) between
      (fun task member before after outcome does taken link among => by
        obtain ⟨middle, stored, same, notActive⟩ := taken link among
        obtain ⟨later, stored', same', still⟩ := does.links.exists_notActive stored notActive (kept task member)
        exact ⟨later, stored', same'.trans same, still⟩)
      fun link among => ⟨link.restamped .running draw.worker draw.now,
        List.mem_map.mpr ⟨link, (mem_links_of_mem_batch among).1, if_pos among⟩, rfl, by simp [Link.restamped]⟩
    refine ⟨_, _, outcome, (tracks.lease injective ruleId' named').1, fun id given given' => ?_⟩
    simp only [List.map_map, List.mem_map] at given given'
    obtain ⟨link, among, rfl⟩ := given
    obtain ⟨link', among', same'⟩ := given'
    obtain ⟨held, stored, same, notActive⟩ := taken link among
    obtain ⟨stored', -, active⟩ := mem_links_of_mem_batch among'
    -- The second lease takes active links only, and no other link has the identifier.
    obtain rfl := List.inj_on_of_nodup_map tracks.unique stored' stored (same'.trans same.symm)
    exact notActive active
  exhaust ruleId draws named := by
    obtain ⟨batches, outcomes, ids, after, reached', left⟩ := reached.leases injective ruleId draws named
    -- What the leases have left is nothing if there was room for everything, and only then.
    refine ⟨batches, outcomes, ids, fun draw named' room => ?_⟩
    rw [(reached'.lease injective ruleId named').1, ids, batch, left]
    have nothing_left : (((available ruleId ledger.links).drop (draws.map Draw.size).sum).take draw.size).map
        (fun link => link.restamped .running draw.worker draw.now) = [] ↔
          (available ruleId ledger.links).length ≤ (draws.map Draw.size).sum := by
      simp [room]
    rw [Except.ok.injEq, nothing_left]
    refine ⟨fun all => by rw [List.take_of_length_le all], fun all => ?_⟩
    have count := congrArg List.length all
    simp only [List.length_map, List.length_take] at count
    omega

end Ledger.Reached

namespace System

variable {name : Nat → String}

/-- In every state that operations can leave behind, a lease hands out exactly the first active links of its rule and
changes nothing else. Leases give no link twice unless it is taken back, and all active links in the end. -/
theorem leases_exact (injective : Function.Injective name) (actions : List Action) :
    ∃ links : List Link, (after name actions).linkDocuments = links.map Link.members ∧
      (links.map Link.id).Nodup ∧ (after name actions).coordinator.HandsOut name links := by
  obtain ⟨ledger, reached⟩ := Ledger.Reached.exists_of_after injective actions
  exact ⟨ledger.links, reached.behind.kept.links, reached.unique, reached.handsOut injective⟩

/-- On the sample day the only link is given to the first worker, and nothing is left for the second one. -/
theorem leases_exact_sampleDay :
    ((after Supply.strokes (sampleDay.take 8)).coordinator.leases Supply.strokes "r"
      [⟨dawn, "w", 1⟩, ⟨noon, "v", 2⟩]).1 = [.ok [sampleLink "w" 0], .ok []] ∧
    ∃ links : List Link, (after Supply.strokes (sampleDay.take 8)).linkDocuments = links.map Link.members ∧
      (links.map Link.id).Nodup ∧
      (after Supply.strokes (sampleDay.take 8)).coordinator.HandsOut Supply.strokes links :=
  ⟨by rfl, leases_exact Supply.strokes_injective (sampleDay.take 8)⟩

end System

end Lease

end Harvest

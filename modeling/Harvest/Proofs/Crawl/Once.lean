import Harvest.Proofs.Crawl.Accounts
import Harvest.Proofs.Crawl.Values

/-! If no address is queued twice, what is left to visit and what has become of each link is decided by the
leases and the visits, in whatever order these came. -/

namespace Harvest.Crawl

/-- No address is queued twice, be it as a leased link or as a detail page. -/
def Once (batches : List (List Link)) (visits : List Visit) : Prop :=
  ((enqueued batches visits).map (·.url)).Nodup

instance (batches : List (List Link)) (visits : List Visit) : Decidable (Once batches visits) :=
  inferInstanceAs (Decidable ((enqueued batches visits).map (·.url)).Nodup)

/-- The targets that are left to visit by what was leased and visited: those that have always failed, not too
often. -/
def due (giveUpAfter : Nat) (batches : List (List Link)) (visits : List Visit) : List Target :=
  (enqueued batches visits).filter fun target =>
    fetchesAt visits target.url = failuresAt visits target.url ∧ failuresAt visits target.url ≤ giveUpAfter

/-- What was queued at an earlier time is part of what is queued later. -/
theorem enqueued_sublist {batches batches' : List (List Link)} {visits visits' : List Visit}
    (first : batches <+: batches') (second : visits <+: visits') :
    (enqueued batches visits).Sublist (enqueued batches' visits') := by
  -- Links and pages are queued in their own order, and later ones come behind.
  obtain ⟨others, rfl⟩ := first
  obtain ⟨more, rfl⟩ := second
  simp only [enqueued, seeded, discovered, List.flatten_append, List.map_append, List.flatMap_append]
  exact (List.sublist_append_left ..).append (List.sublist_append_left ..)

namespace Once

variable {batches batches' : List (List Link)} {visits visits' : List Visit}

/-- If no address is queued twice, none was at an earlier time. -/
theorem earlier (once : Once batches' visits') (first : batches <+: batches') (second : visits <+: visits') :
    Once batches visits :=
  once.sublist ((enqueued_sublist first second).map _)

/-- Queued targets with the same address are the same. -/
theorem eq_of_url (once : Once batches visits) {target other : Target} (queued : target ∈ enqueued batches visits)
    (queued' : other ∈ enqueued batches visits) (same : target.url = other.url) : target = other :=
  List.inj_on_of_nodup_map once queued queued' same

/-- The address of a queued target is queued once. -/
theorem targetsAt_enqueued (once : Once batches visits) {target : Target}
    (queued : target ∈ enqueued batches visits) : targetsAt (enqueued batches visits) target.url = 1 := by
  -- An address is counted in a list of different addresses.
  have counted : targetsAt (enqueued batches visits) target.url =
      ((enqueued batches visits).map (·.url)).count target.url := by
    rw [targetsAt, List.count, List.countP_map]
    rfl
  rw [counted]
  exact List.count_eq_one_of_mem once (List.mem_map_of_mem queued)

/-- The links leased have different addresses. -/
theorem links (once : Once batches visits) : (batches.flatten.map (·.url)).Nodup := by
  have seeds : ((seeded batches).map (·.url)).Nodup := once.sublist ((List.sublist_append_left ..).map _)
  simpa only [seeded, List.map_map, Function.comp_def] using seeds

/-- The detail pages named have different addresses. -/
theorem pages (once : Once batches visits) : ((named visits).map (·.url)).Nodup := by
  rw [← discovered_urls]
  exact once.sublist ((List.sublist_append_right ..).map _)

/-- A target that is queued is not named by later visits. -/
theorem unnamed (once : Once batches (visits ++ visits')) {target : Target}
    (queued : target ∈ enqueued batches visits) : target.url ∉ (named visits').map (·.url) := by
  -- The detail pages of later visits come after what was queued before.
  have apart := once
  simp only [Once, enqueued, discovered, List.flatMap_append, ← List.append_assoc] at apart
  rw [List.map_append, List.nodup_append] at apart
  rw [← discovered_urls]
  exact fun later => apart.2.2 _ (List.mem_map_of_mem queued) _ later rfl

end Once

/-- A visit gives up the link of its own address, if it is a failure that does not put the target back. -/
theorem Queue.mem_givenUp_take {queue : Queue} {visit : Visit} {id : String} :
    id ∈ (queue.take visit).givenUp ↔ id ∈ queue.givenUp ∨ visit.finding.fails = true ∧
      queue.putsBack visit = false ∧ queue.linkIds.lookup visit.target.url = some id := by
  -- By whether the visit settles its address as a failure.
  rw [(queue.takes visit).givenUp]
  split
  · rename_i settled
    simp [mem_join, settled.1, settled.2]
  · rename_i kept
    refine ⟨.inl, fun either => either.resolve_right fun settled => kept ⟨settled.1, ?_⟩⟩
    simp [settled.2.1]

/-- What is left to visit after a visit was left before, is found by the visit, or is its own target, put back. -/
theorem Schedule.mem_outstanding_visit {front back : List Target} {visit : Visit} {queue : Queue}
    {target : Target} (stands : target ∈ outstanding ⟨front ++ back, queue.take visit⟩) :
    target ∈ front ++ back ++ queue.pending ∨ target ∈ visit.details ∨
      target = visit.target ∧ queue.putsBack visit = true := by
  -- By where the target stands: before the answer, in the queue, among the details or at the end.
  simp only [outstanding, (queue.takes visit).pending, List.mem_append] at stands ⊢
  rcases stands with unanswered | (pending | found) | again
  · exact .inl (.inl unanswered)
  · exact .inl (.inr pending)
  · exact .inr (.inl found)
  · split at again
    · rename_i back
      exact .inr (.inr ⟨List.mem_singleton.mp again, back⟩)
    · cases again

/-- An address that is left to visit after a visit that does not name it was left before, or is that of the
visit, put back. -/
theorem Schedule.url_outstanding_visit {front back : List Target} {visit : Visit} {queue : Queue} {url : String}
    (unnamed : url ∉ visit.named.map (·.url))
    (left : url ∈ (outstanding ⟨front ++ back, queue.take visit⟩).map (·.url)) :
    url ∈ (front ++ back ++ queue.pending).map (·.url) ∨
      url = visit.target.url ∧ queue.putsBack visit = true := by
  -- The detail pages that the visit finds have other addresses.
  obtain ⟨target, stands, rfl⟩ := List.mem_map.mp left
  rcases mem_outstanding_visit stands with other | found | ⟨same, again⟩
  · exact .inl (List.mem_map_of_mem other)
  · rw [Visit.details_eq] at found
    obtain ⟨page, among, rfl⟩ := List.mem_map.mp found
    exact absurd (List.mem_map_of_mem among) unnamed
  · exact .inr ⟨congrArg _ same, again⟩

namespace Schedule.Run

variable {giveUpAfter : Nat} {batches : List (List Link)} {visits : List Visit} {schedule : Schedule}

/-- A target that is left to visit, and whose address was queued once, has failed at all its visits, not too
often, and is left once. -/
theorem fetchesAt_eq_of_single (run : Run giveUpAfter batches visits schedule) {target : Target}
    (stands : target ∈ schedule.outstanding) (single : targetsAt (enqueued batches visits) target.url = 1) :
    targetsAt schedule.outstanding target.url = 1 ∧ fetchesAt visits target.url = failuresAt visits target.url ∧
      failuresAt visits target.url ≤ giveUpAfter := by
  -- At its address there are one target more and as many visits as were put back.
  have balance := run.targetsAt_visits target.url
  rw [single, ← fetchesAt] at balance
  have some_left : 0 < targetsAt schedule.outstanding target.url :=
    List.countP_pos_iff.mpr ⟨target, stands, by simp⟩
  have failures := failuresAt_le visits target.url
  omega

/-- If no address is queued twice, a target that is left to visit has failed at all its visits, not too often,
and is left once. -/
theorem alone (run : Run giveUpAfter batches visits schedule) (once : Once batches visits) {target : Target}
    (stands : target ∈ schedule.outstanding) : targetsAt schedule.outstanding target.url = 1 ∧
      fetchesAt visits target.url = failuresAt visits target.url ∧
      failuresAt visits target.url ≤ giveUpAfter :=
  -- Every target that is left was queued before, and queued once.
  run.fetchesAt_eq_of_single stands
    (once.targetsAt_enqueued (run.mem_enqueued target (List.mem_append_right _ stands)))

/-- No target is left to visit twice. -/
theorem nodup_outstanding (run : Run giveUpAfter batches visits schedule) (once : Once batches visits) :
    (schedule.outstanding.map (·.url)).Nodup := by
  -- By counting each address, of which any target that is left has only its own.
  refine List.nodup_iff_count_le_one.mpr fun url => ?_
  by_cases among : url ∈ schedule.outstanding.map (·.url)
  · obtain ⟨target, stands, rfl⟩ := List.mem_map.mp among
    have one := (run.alone once stands).1
    rw [targetsAt] at one
    rw [List.count, List.countP_map]
    exact one.le
  · rw [List.count_eq_zero_of_not_mem among]
    exact Nat.zero_le 1

/-- The address of an open target is not left to visit elsewhere. -/
theorem elsewhere {front back : List Target} {target : Target} {queue : Queue}
    (run : Run giveUpAfter batches visits ⟨front ++ target :: back, queue⟩) (once : Once batches visits) :
    target.url ∉ (front ++ back ++ queue.pending).map (·.url) := by
  -- The open target stands in front of all others once its list is turned.
  have apart := run.nodup_outstanding once
  rw [outstanding, List.append_assoc, List.cons_append, List.map_append, List.map_cons, List.nodup_middle,
    List.nodup_cons, ← List.map_append, ← List.append_assoc] at apart
  exact apart.1

/-- What is left to visit is what is due. -/
theorem outstanding_perm (run : Run giveUpAfter batches visits schedule) (once : Once batches visits) :
    schedule.outstanding.Perm (due giveUpAfter batches visits) := by
  have distinct : (due giveUpAfter batches visits).Nodup := once.of_map.filter _
  refine (List.perm_ext_iff_of_nodup (run.nodup_outstanding once).of_map distinct).mpr fun target => ?_
  rw [due, List.mem_filter, decide_eq_true_eq]
  constructor
  · exact fun stands => ⟨run.mem_enqueued target (List.mem_append_right _ stands), (run.alone once stands).2⟩
  · rintro ⟨queued, failed, few⟩
    -- The visits are fewer than what was queued and put back, so that one is left.
    have balance := run.targetsAt_visits target.url
    rw [once.targetsAt_enqueued queued, ← fetchesAt, failed, Nat.min_eq_left few, Nat.add_comm,
      Nat.add_right_cancel_iff] at balance
    obtain ⟨other, stands, same⟩ := List.countP_pos_iff.mp (balance.symm ▸ Nat.one_pos)
    have queued' := run.mem_enqueued other (List.mem_append_right _ stands)
    rwa [once.eq_of_url queued queued' (by simpa using Eq.symm (of_decide_eq_true same))]

/-- An address that is left to visit, or was never named, has the value in the queue that a listing has given. -/
theorem parentValue_eq (run : Run giveUpAfter batches visits schedule) (once : Once batches visits) {url : String}
    (known : url ∈ schedule.outstanding.map (·.url) ∨ url ∉ (named visits).map (·.url)) :
    schedule.queue.parentValue url = listedValue visits url := by
  induction run with
  | start => rfl
  | @seed batches visits queue run dry links ih =>
    refine ih (once.earlier (List.prefix_append ..) List.prefix_rfl) (.inr ?_)
    -- The address of a leased link is not that of a detail page.
    rcases known with left | unnamed
    · obtain ⟨target, stands, rfl⟩ := List.mem_map.mp left
      refine @Once.unnamed (batches ++ [links]) [] visits once target ?_
      simp only [outstanding, Queue.seed, dry, List.nil_append] at stands
      simp [enqueued, seeded, discovered, stands]
    · exact unnamed
  | drain run ih => exact ih once (by simpa [outstanding, Queue.drain] using known)
  | @visit batches visits front back visit queue run ih =>
    have before : Once batches visits := once.earlier List.prefix_rfl (List.prefix_append ..)
    by_cases here : url ∈ visit.named.map (·.url)
    · -- The page of the visit names the address, and no other one does.
      obtain ⟨page, among, rfl⟩ := List.mem_map.mp here
      have distinct := once.pages
      rw [listedValue_append_of_named (by simpa [named] using among) distinct]
      refine Queue.parentValue_take_of_named among (distinct.sublist (List.Sublist.map _ ?_))
      simp [named]
    · rw [listedValue_append_of_unnamed visits (by simpa [named] using here)]
      have earlier (unnamed : url ∉ (named (visits ++ [visit])).map (·.url)) :
          url ∉ (named visits).map (·.url) := by
        rw [named, List.flatMap_append, List.map_append, List.mem_append, not_or] at unnamed
        exact unnamed.1
      -- An address that the visit does not name keeps its value, or it is the one that is settled.
      rcases queue.parentValue_take_of_unnamed here with kept | ⟨forgotten, rfl, settled⟩
      · rw [kept]
        refine ih before (known.imp (fun left => ?_) earlier)
        rw [outstanding, List.append_assoc, List.cons_append, List.map_append, List.map_cons]
        rcases url_outstanding_visit here left with other | ⟨rfl, -⟩
        · rw [List.append_assoc, List.map_append] at other
          exact List.mem_append.mpr ((List.mem_append.mp other).imp_right (List.mem_cons_of_mem _))
        · simp
      · -- Its own address is not left to visit once it is settled.
        rw [forgotten, listedValue_of_unnamed]
        refine known.elim (fun left => ?_) earlier
        rcases url_outstanding_visit here left with other | ⟨-, again⟩
        · exact absurd other (run.elsewhere before)
        · simp [settled] at again

/-- The address of a leased link leads to it. -/
theorem lookup_linkIds (run : Run giveUpAfter batches visits schedule) (once : Once batches visits) {link : Link}
    (leased : link ∈ batches.flatten) : schedule.queue.linkIds.lookup link.url = some link.id := by
  induction run with
  | start => cases leased
  | @seed batches visits queue run dry links ih =>
    have distinct := once.links
    rw [List.flatten_append, List.flatten_singleton] at leased distinct
    rw [List.map_append, List.nodup_append] at distinct
    rcases List.mem_append.mp leased with old | new
    · -- The links that come later have other addresses.
      rw [Queue.lookup_seed_of_not_mem fun later => distinct.2.2 _ (List.mem_map_of_mem old) _ later rfl]
      exact ih (once.earlier (List.prefix_append ..) List.prefix_rfl) old
    · exact Queue.lookup_seed distinct.2.1 new
  | drain run ih => exact ih once leased
  | @visit batches visits front back visit queue run ih =>
    rw [(queue.takes visit).linkIds]
    exact ih (once.earlier List.prefix_rfl (List.prefix_append ..)) leased

/-- A leased link was not visited before. -/
theorem unvisited (run : Run giveUpAfter batches visits schedule) {links : List Link}
    (once : Once (batches ++ [links]) visits) {link : Link} (leased : link ∈ links) :
    ∀ visit ∈ visits, visit.target.url ≠ link.url := by
  -- Whatever was visited was queued before the link, and so has another address.
  intro visit among same
  have queued := run.mem_enqueued visit.target (List.mem_append_left _ (List.mem_map_of_mem among))
  have apart : ((enqueued batches visits ++ seeded [links]).map (·.url)).Nodup := by
    refine (List.Perm.map _ ?_).nodup once
    simp only [enqueued, seeded, List.flatten_append, List.map_append, List.append_assoc]
    exact List.Perm.append_left _ List.perm_append_comm
  rw [List.map_append, List.nodup_append] at apart
  refine apart.2.2 _ (List.mem_map_of_mem queued) _ ?_ same
  simpa [seeded] using ⟨link, leased, rfl⟩

/-- The links dealt with are those that were visited without a failure. -/
theorem mem_processed (run : Run giveUpAfter batches visits schedule) (once : Once batches visits) {id : String} :
    id ∈ schedule.queue.processed ↔ ∃ link ∈ batches.flatten, link.id = id ∧
      ∃ visit ∈ visits, visit.target.url = link.url ∧ visit.finding.fails = false := by
  -- A link is dealt with by the visit without a failure, which comes after the link was leased.
  refine ⟨run.known.processed id, ?_⟩
  rintro ⟨link, leased, rfl, visit, among, own, succeeds⟩
  induction run with
  | start => cases among
  | @seed batches visits queue run dry links ih =>
    rw [List.flatten_append, List.flatten_singleton] at leased
    refine ih (once.earlier (List.prefix_append ..) List.prefix_rfl) ?_ among
    exact (List.mem_append.mp leased).resolve_right fun new => run.unvisited once new visit among own
  | drain run ih => exact ih once leased among
  | @visit batches visits front back last queue run ih =>
    have before : Once batches visits := once.earlier List.prefix_rfl (List.prefix_append ..)
    rw [(queue.takes last).processed]
    rcases List.mem_append.mp among with early | late
    · have dealt := ih before leased early
      split
      · exact dealt
      · exact Queue.mem_join.mpr (.inl dealt)
    · obtain rfl := List.mem_singleton.mp late
      rw [if_neg (by simp [succeeds])]
      exact Queue.mem_join.mpr (.inr (own ▸ run.lookup_linkIds before leased))

/-- The links given up are those whose address has failed too often. -/
theorem mem_givenUp (run : Run giveUpAfter batches visits schedule) (once : Once batches visits) {id : String} :
    id ∈ schedule.queue.givenUp ↔ ∃ link ∈ batches.flatten, link.id = id ∧
      giveUpAfter < failuresAt visits link.url := by
  induction run with
  | start => simp
  | @seed batches visits queue run dry links ih =>
    refine (ih (once.earlier (List.prefix_append ..) List.prefix_rfl)).trans ⟨?_, ?_⟩
    · rintro ⟨link, leased, same, often⟩
      exact ⟨link, by simp [List.mem_flatten.mp leased], same, often⟩
    · rintro ⟨link, leased, same, often⟩
      rw [List.flatten_append, List.flatten_singleton] at leased
      refine ⟨link, (List.mem_append.mp leased).resolve_right fun new => ?_, same, often⟩
      -- The address of a new link has not failed.
      obtain ⟨visit, among, failed⟩ := List.countP_pos_iff.mp (Nat.zero_lt_of_lt often)
      exact run.unvisited once new visit among (of_decide_eq_true failed).2.symm
  | drain run ih => exact ih once
  | @visit batches visits front back visit queue run ih =>
    have before : Once batches visits := once.earlier List.prefix_rfl (List.prefix_append ..)
    obtain ⟨limit, counted⟩ := run.attempts
    simp only at limit counted
    rw [Queue.mem_givenUp_take, ih before, Queue.putsBack, limit, counted]
    simp only [failuresAt_append_singleton]
    constructor
    · rintro (⟨link, leased, same, often⟩ | ⟨fails, dropped, found⟩)
      · exact ⟨link, leased, same, often.trans_le (Nat.le_add_right ..)⟩
      · -- The link of the address has failed once more than it may.
        obtain ⟨link, leased, entry⟩ := run.known.linkIds _ (Table.mem_of_lookup found)
        obtain ⟨url, rfl⟩ := Prod.mk.inj entry
        refine ⟨link, leased, rfl, ?_⟩
        rw [if_pos ⟨fails, url.symm⟩, ← url]
        simpa [fails, Nat.lt_succ_iff] using dropped
    · rintro ⟨link, leased, rfl, often⟩
      by_cases early : giveUpAfter < failuresAt visits link.url
      · exact .inl ⟨link, leased, rfl, early⟩
      · -- It is this visit that is one too many.
        have last : visit.finding.fails = true ∧ link.url = visit.target.url := by
          by_contra other
          rw [if_neg other] at often
          exact early often
        rw [if_pos last] at often
        refine .inr ⟨last.1, ?_, last.2 ▸ run.lookup_linkIds before leased⟩
        simp only [last.1, ← last.2, Bool.true_and, decide_eq_false_iff_not]
        omega

end Schedule.Run

end Harvest.Crawl

import Harvest.Proofs.Crawl.Schedule

/-! Every leased link is accounted for: as long as it is neither dealt with nor given up, its address is yet
to be visited under its name. -/

namespace Harvest.Crawl

/-- Seeding links leaves every other address with its link. -/
theorem Queue.lookup_seed_of_not_mem {queue : Queue} {links : List Link} {url : String}
    (absent : url ∉ links.map (·.url)) : (queue.seed links).linkIds.lookup url = queue.linkIds.lookup url := by
  simp only [seed]
  generalize queue.linkIds = table
  -- The links are filed one after the other.
  induction links generalizing table with
  | nil => rfl
  | cons link rest ih =>
    rw [List.map_cons, List.mem_cons, not_or] at absent
    rw [List.foldl_cons, ih absent.2, Table.lookup_put, if_neg absent.1]

/-- After seeding links with different addresses each address leads to its own link. -/
theorem Queue.lookup_seed {queue : Queue} {links : List Link} (distinct : (links.map (·.url)).Nodup)
    {link : Link} (among : link ∈ links) :
    (queue.seed links).linkIds.lookup link.url = some link.id := by
  -- The links filed later have other addresses.
  induction links generalizing queue with
  | nil => cases among
  | cons first rest ih =>
    rw [List.map_cons, List.nodup_cons] at distinct
    have step : (queue.seed (first :: rest)).linkIds = ((queue.seed [first]).seed rest).linkIds := rfl
    rw [step]
    rcases List.mem_cons.mp among with rfl | rest'
    · rw [lookup_seed_of_not_mem distinct.1]
      simp [seed, Table.lookup_put]
    · exact ih distinct.2 rest'

/-- What is known of the links of a queue: they were leased, and those dealt with were visited without a
failure. -/
structure Queue.Known (leased : List Link) (visits : List Visit) (queue : Queue) : Prop where
  linkIds : ∀ entry ∈ queue.linkIds, ∃ link ∈ leased, entry = (link.url, link.id)
  processed : ∀ id ∈ queue.processed, ∃ link ∈ leased, link.id = id ∧
    ∃ visit ∈ visits, visit.target.url = link.url ∧ visit.finding.fails = false
  givenUp : ∀ id ∈ queue.givenUp, ∃ link ∈ leased, link.id = id
  processedOnce : queue.processed.Nodup
  givenUpOnce : queue.givenUp.Nodup

/-- Where a link is: dealt with, given up, or yet to be visited at its address. -/
inductive Schedule.Holds (schedule : Schedule) (link : Link) : Prop
  | processed (dealt : link.id ∈ schedule.queue.processed)
  | givenUp (left : link.id ∈ schedule.queue.givenUp)
  | outstanding (stands : ⟨link.url, 1⟩ ∈ schedule.outstanding)
      (own : schedule.queue.linkIds.lookup link.url = some link.id)

/-- A visit loses no link: whatever it finds at the address of a link, the link is dealt with or given up, or
its address is yet to be visited. -/
theorem Schedule.Holds.visit {front back : List Target} {visit : Visit} {queue : Queue} {link : Link}
    (holds : Schedule.Holds ⟨front ++ visit.target :: back, queue⟩ link) :
    Schedule.Holds ⟨front ++ back, queue.take visit⟩ link := by
  have takes := queue.takes visit
  -- What is dealt with or given up stays so; only the visit of its own address moves a link on.
  cases holds with
  | processed dealt =>
    refine .processed ?_
    simp only [takes.processed]
    split
    · exact dealt
    · exact Queue.mem_join.mpr (.inl dealt)
  | givenUp left =>
    refine .givenUp ?_
    simp only [takes.givenUp]
    split
    · exact Queue.mem_join.mpr (.inl left)
    · exact left
  | outstanding stands own =>
    rcases Schedule.outstanding_visit stands with still | ⟨same, dropped⟩
    · exact .outstanding still (takes.linkIds ▸ own)
    · have found : queue.linkIds.lookup visit.target.url = some link.id := by rw [same]; exact own
      -- The address is marked, or it has failed too often.
      cases fails : visit.finding.fails with
      | false =>
        refine .processed ?_
        simp only [takes.processed, fails]
        exact Queue.mem_join.mpr (.inr found)
      | true =>
        refine .givenUp ?_
        simp only [takes.givenUp, fails, dropped, Bool.false_eq_true, not_false_eq_true, and_self, if_true]
        exact Queue.mem_join.mpr (.inr found)

namespace Schedule.Run

variable {giveUpAfter : Nat} {batches : List (List Link)} {visits : List Visit} {schedule : Schedule}

/-- The links of a queue are known. -/
theorem known (run : Run giveUpAfter batches visits schedule) :
    schedule.queue.Known batches.flatten visits := by
  -- Seeding files leased links alone, and a visit deals with the link of its own address alone.
  induction run with
  | start => exact ⟨by simp, by simp, by simp, List.nodup_nil, List.nodup_nil⟩
  | @seed batches visits queue run dry links ih =>
    rw [List.flatten_append, List.flatten_singleton]
    exact {
      linkIds := fun entry filed => by
        rcases Queue.mem_linkIds_seed filed with old | ⟨link, among, same⟩
        · obtain ⟨link, among, same⟩ := ih.linkIds entry old
          exact ⟨link, List.mem_append_left _ among, same⟩
        · exact ⟨link, List.mem_append_right _ among, same⟩
      processed := fun id dealt => by
        obtain ⟨link, among, rest⟩ := ih.processed id dealt
        exact ⟨link, List.mem_append_left _ among, rest⟩
      givenUp := fun id left => by
        obtain ⟨link, among, same⟩ := ih.givenUp id left
        exact ⟨link, List.mem_append_left _ among, same⟩
      processedOnce := ih.processedOnce
      givenUpOnce := ih.givenUpOnce }
  -- Draining takes targets from the queue, and nothing else.
  | drain run ih => exact ⟨ih.linkIds, ih.processed, ih.givenUp, ih.processedOnce, ih.givenUpOnce⟩
  | @visit batches visits front back visit queue run ih =>
    have takes := queue.takes visit
    -- The link of an address is a leased one.
    have own {id : String} (found : queue.linkIds.lookup visit.target.url = some id) :
        ∃ link ∈ batches.flatten, link.url = visit.target.url ∧ link.id = id := by
      obtain ⟨link, among, same⟩ := ih.linkIds _ (Table.mem_of_lookup found)
      obtain ⟨url, id⟩ := Prod.mk.inj same
      exact ⟨link, among, url.symm, id.symm⟩
    have before {id : String} (dealt : id ∈ queue.processed) : ∃ link ∈ batches.flatten, link.id = id ∧
        ∃ one ∈ visits ++ [visit], one.target.url = link.url ∧ one.finding.fails = false := by
      obtain ⟨link, among, same, one, early, rest⟩ := ih.processed id dealt
      exact ⟨link, among, same, one, List.mem_append_left _ early, rest⟩
    exact {
      linkIds := takes.linkIds ▸ ih.linkIds
      processed := fun id dealt => by
        rw [takes.processed] at dealt
        split at dealt
        · exact before dealt
        · rename_i succeeds
          rcases Queue.mem_join.mp dealt with old | found
          · exact before old
          · obtain ⟨link, among, url, same⟩ := own found
            exact ⟨link, among, same, visit, by simp, url.symm, by simpa using succeeds⟩
      givenUp := fun id left => by
        rw [takes.givenUp] at left
        split at left
        · rcases Queue.mem_join.mp left with old | found
          · exact ih.givenUp id old
          · obtain ⟨link, among, -, same⟩ := own found
            exact ⟨link, among, same⟩
        · exact ih.givenUp id left
      processedOnce := by
        rw [takes.processed]
        split
        · exact ih.processedOnce
        · exact Queue.nodup_join ih.processedOnce
      givenUpOnce := by
        rw [takes.givenUp]
        split
        · exact Queue.nodup_join ih.givenUpOnce
        · exact ih.givenUpOnce }

/-- Every leased link is dealt with, given up, or yet to be visited, if the links of each lease have different
addresses. -/
theorem holds (run : Run giveUpAfter batches visits schedule)
    (distinct : ∀ batch ∈ batches, (batch.map (·.url)).Nodup) :
    ∀ link ∈ batches.flatten, schedule.Holds link := by
  -- A lease that repeats an address replaces its link, which is why the others must be settled by then.
  induction run with
  | start => simp
  | @seed batches visits queue run dry links ih =>
    intro link among
    simp only [List.flatten_append, List.flatten_singleton, List.mem_append] at among
    rcases among with old | new
    · -- When more links are leased, none of the others is left.
      cases ih (fun batch early => distinct batch (List.mem_append_left _ early)) link old with
      | processed dealt => exact .processed dealt
      | givenUp left => exact .givenUp left
      | outstanding stands own => simp [outstanding, dry] at stands
    · refine .outstanding ?_ (Queue.lookup_seed (distinct links (by simp)) new)
      simp only [outstanding, Queue.seed, List.nil_append, List.mem_append, List.mem_map]
      exact .inr ⟨link, new, rfl⟩
  | drain run ih =>
    intro link among
    cases ih distinct link among with
    | processed dealt => exact .processed dealt
    | givenUp left => exact .givenUp left
    | outstanding stands own => exact .outstanding (by simpa [outstanding, Queue.drain] using stands) own
  | visit run ih => exact fun link among => (ih distinct link among).visit

/-- When nothing is left to visit, the links dealt with and not given up, together with those given up, are
the leased links, each once. -/
theorem perm_of_dry (run : Run giveUpAfter batches visits schedule) (dry : schedule.outstanding = [])
    (distinct : ∀ batch ∈ batches, (batch.map (·.url)).Nodup) (ids : (batches.flatten.map (·.id)).Nodup) :
    (schedule.queue.completed ++ schedule.queue.givenUp).Perm (batches.flatten.map (·.id)) := by
  have known := run.known
  have once : (schedule.queue.completed ++ schedule.queue.givenUp).Nodup :=
    List.nodup_append.mpr ⟨known.processedOnce.filter _, known.givenUpOnce,
      fun id completed other left same => (Queue.mem_completed.mp completed).2 (same ▸ left)⟩
  -- Neither list has an identifier twice, so it is enough that they have the same ones.
  refine (List.perm_ext_iff_of_nodup once ids).mpr fun id => ?_
  rw [List.mem_append, Queue.mem_completed, List.mem_map]
  constructor
  · rintro (⟨dealt, -⟩ | left)
    · obtain ⟨link, among, same, -⟩ := known.processed id dealt
      exact ⟨link, among, same⟩
    · exact known.givenUp id left
  · rintro ⟨link, among, rfl⟩
    cases run.holds distinct link among with
    | processed dealt =>
      by_cases left : link.id ∈ schedule.queue.givenUp
      · exact .inr left
      · exact .inl ⟨dealt, left⟩
    | givenUp left => exact .inr left
    | outstanding stands => rw [dry] at stands; cases stands

end Schedule.Run

end Harvest.Crawl

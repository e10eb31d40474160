import Harvest.Proofs.Lease.LifeCycle
import Harvest.Proofs.Lease.Undisturbed
import Harvest.Proofs.Number.Binary64

/-! Crashed workers lose no work: a reclaim takes back exactly the leases that are too old, and the next lease
with enough room gets all of them. -/

namespace Harvest

/-- The times of the calendar have at most 53 binary digits. -/
theorem Record.IsTime.natAbs_lt {time : Int} (known : Record.IsTime time) : time.natAbs < 2 ^ 53 := by
  unfold Record.IsTime at known
  omega

/-- Two numbers are compared as floating-point numbers. -/
theorem Json.compare?_of_binary64? {value other : Json} {number number' : Binary64}
    (read : value.binary64? = some number) (read' : other.binary64? = some number') :
    value.compare? other = number.compare? number' := by
  -- A text is no number.
  unfold compare?
  split
  · cases read
  · rw [read, read']
    rfl

/-- A link is leased, and has not changed since before the bound. -/
def Link.IsStale (bound : Int) (link : Link) : Prop :=
  link.status = .running ∧ link.updated < bound

instance (bound : Int) : DecidablePred (Link.IsStale bound) :=
  fun _ => inferInstanceAs (Decidable (_ ∧ _))

/-- Times compare as integers, although they are compared as floating-point numbers. -/
theorem Link.compare?_updated {link : Link} (dated : Record.IsTime link.updated) {bound : Int}
    (inRange : Record.IsTime bound) : (Json.int link.updated).compare? (.int bound) = some .lt ↔
      link.updated < bound := by
  rw [Json.compare?_of_binary64? rfl rfl]
  exact Binary64.compare?_ofInt dated.natAbs_lt inRange.natAbs_lt

/-- The filter on the documents of links finds the stale ones. -/
theorem Link.isStale_of_compare? {link : Link} (dated : Record.IsTime link.updated) {bound : Int}
    (inRange : Record.IsTime bound) :
    (link.status = .running ∧ (Json.int link.updated).compare? (.int bound) = some .lt) ↔ link.IsStale bound :=
  and_congr_right fun _ => Link.compare?_updated dated inRange

namespace Lease

/-- The links after a reclaim. -/
def reclaimed (bound now : Int) (links : List Link) : List Link :=
  changeLinks (Link.IsStale bound) (fun link => link.restamped .active "" now) links

/-- Taking back what the filter on documents finds is a reclaim. -/
theorem changeLinks_stale {links : List Link} (dated : ∀ link ∈ links, Record.IsTime link.updated) {bound : Int}
    (inRange : Record.IsTime bound) (now : Int) :
    changeLinks (fun link => link.status = .running ∧ (Json.int link.updated).compare? (.int bound) = some .lt)
      (fun link => link.restamped .active "" now) links = reclaimed bound now links :=
  List.map_congr_left fun link among => if_congr (Link.isStale_of_compare? (dated link among) inRange) rfl rfl

/-- After a reclaim no link is stale. -/
theorem not_isStale_reclaimed (bound now : Int) (links : List Link) :
    ∀ link ∈ reclaimed bound now links, ¬link.IsStale bound := by
  intro link member
  obtain ⟨before, -, rfl⟩ := List.mem_map.mp member
  -- A link that was stale is leased no more, and all others are as they were.
  by_cases stale : before.IsStale bound
  · rw [if_pos stale]
    rintro ⟨leased, -⟩
    cases leased
  · rwa [if_neg stale]

/-- A second reclaim finds nothing to take back, and changes nothing. -/
theorem reclaimed_reclaimed (bound now : Int) (links : List Link) :
    (reclaimed bound now links).countP (Link.IsStale bound) = 0 ∧
      reclaimed bound now (reclaimed bound now links) = reclaimed bound now links := by
  -- What was taken back is not stale any more.
  have fresh := not_isStale_reclaimed bound now links
  refine ⟨List.countP_eq_zero.mpr (by simpa using fresh), ?_⟩
  generalize reclaimed bound now links = links at fresh ⊢
  rw [reclaimed, changeLinks, List.map_congr_left fun link among => if_neg (fresh link among), List.map_id']

/-- The links of a rule that can be leased or are leased. -/
def openLinks (ruleId : String) (links : List Link) : List Link :=
  links.filter fun link => link.ruleId = ruleId ∧ (link.status = .active ∨ link.status = .running)

/-- If all leases are stale, the open links of a rule are those that can be leased after a reclaim. -/
theorem available_reclaimed {bound : Int} {links : List Link}
    (crashed : ∀ link ∈ links, link.status = .running → link.updated < bound) (now : Int) (ruleId : String) :
    available ruleId (reclaimed bound now links) = (openLinks ruleId links).map fun link =>
      if link.IsStale bound then link.restamped .active "" now else link := by
  rw [available, reclaimed, changeLinks, List.filter_map, Function.comp_def, openLinks]
  congr 1
  refine List.filter_congr fun link among => ?_
  -- A leased link is taken back, and any other one stands where it stood.
  by_cases leased : link.status = .running
  · have stale : link.IsStale bound := ⟨leased, crashed link among leased⟩
    simp [stale, Link.restamped, leased]
  · have fresh : ¬link.IsStale bound := fun stale => leased stale.1
    simp [fresh, leased]

/-- A lease leaves the same of a link whether or not it was taken back before. -/
theorem restamped_reclaimed (bound now : Int) (worker : String) (later : Int) (link : Link) :
    (if link.IsStale bound then link.restamped .active "" now else link).restamped .running worker later =
      link.restamped .running worker later := by
  split <;> rfl

/-- An undisturbed reclaim takes back the stale links of the book, and no other document changes. -/
theorem Book.Kept.run_reclaim (name : Nat → String) {book : Book} {store : Store} {minted : Nat}
    (kept : book.Kept store) (dated : ∀ link ∈ book.links, Record.IsTime link.updated) (now : Instant)
    {staleAfter : Int} (inRange : Record.IsTime (now - staleAfter)) :
    ∃ after, (Coordinator.undisturbed store minted).run name (reclaim now staleAfter) =
        (.ok (book.links.countP (Link.IsStale (now - staleAfter))), .undisturbed after minted) ∧
      ({ book with links := reclaimed (now - staleAfter) now book.links } : Book).Kept after ∧
      ∀ collection, collection ≠ Lease.links → after.documents collection = store.documents collection := by
  -- The filter on documents is that on links, and what the update writes is read as reclaimed links.
  have count : (book.links.countP fun link => link.status = .running ∧
      (Json.int link.updated).compare? (.int (now - staleAfter)) = some .lt) =
        book.links.countP (Link.IsStale (now - staleAfter)) :=
    List.countP_congr fun link among => by simpa using Link.isStale_of_compare? (dated link among) inRange
  have changed := changeLinks_stale dated inRange now
  refine ⟨_, ?_, ?_, fun collection other => Store.documents_updateMany_of_ne other store
    [Filter.isText "status" LinkStatus.running.text, ("lastUpdate", .lt (.int (now - staleAfter)))]
    (stamp .active "" now)⟩
  · rw [reclaim, kept.run_updateLinks fun link => link.chosen_stale (now - staleAfter), count]
  · rw [← changed]
    exact kept.updateLinks (fun link => link.chosen_stale (now - staleAfter))
      fun link => link.members_extend_stamp .active "" now

/-- What a reclaim does to the links of a store if nothing disturbs it, and what the next lease gives. -/
structure Recovers (name : Nat → String) (store after : Store) (minted : Nat) (now : Instant) (staleAfter : Int)
    (links : List Link) : Prop where
  /-- The stale leases are counted. -/
  counted : (Coordinator.undisturbed store minted).run name (reclaim now staleAfter) =
    (.ok (links.countP (Link.IsStale (now - staleAfter))), .undisturbed after minted)
  /-- They can be leased again, and all other links are as they were. -/
  taken : after.documents Lease.links = (reclaimed (now - staleAfter) now links).map Link.members
  /-- No other document changes. -/
  others : ∀ collection, collection ≠ Lease.links → after.documents collection = store.documents collection
  /-- Repeated at the same time, nothing is left to take back. -/
  again : ∃ same, (Coordinator.undisturbed after minted).run name (reclaim now staleAfter) =
      (.ok 0, .undisturbed same minted) ∧
    ∀ collection, same.documents collection = after.documents collection
  /-- If all leases were stale, a lease with room for the open links of a rule gives all of them. -/
  recovered : (∀ link ∈ links, link.status = .running → link.updated < now - staleAfter) →
    ∀ (later : Instant) (ruleId worker : String) (size : Nat), worker ≠ "" →
      (openLinks ruleId links).length ≤ size →
        ((Coordinator.undisturbed after minted).run name (allocate later ruleId worker size)).1 =
          .ok ((openLinks ruleId links).map fun link => link.restamped .running worker later)

/-- A reclaim at any time loses no work and takes no fresh lease. -/
theorem Book.Kept.recovers {name : Nat → String} {book : Book} {store : Store} (kept : book.Kept store)
    (dated : ∀ link ∈ book.links, Record.IsTime link.updated) (unique : (book.links.map Link.id).Nodup)
    (minted : Nat) (now : Instant) {staleAfter : Int} (inRange : Record.IsTime (now - staleAfter)) :
    ∃ after, Recovers name store after minted now staleAfter book.links := by
  obtain ⟨after, ran, kept', others⟩ := kept.run_reclaim name dated now inRange
  have dated' : ∀ link ∈ reclaimed (now - staleAfter) now book.links, Record.IsTime link.updated :=
    dated_changeLinks dated .active "" now
  have unique' : ((reclaimed (now - staleAfter) now book.links).map Link.id).Nodup := by
    rwa [reclaimed, map_id_changeLinks]
  refine ⟨after, ran, kept'.links, others, ?_, fun crashed later ruleId worker size named room => ?_⟩
  · obtain ⟨same, ran', kept'', others'⟩ := kept'.run_reclaim name dated' now inRange
    obtain ⟨none_left, unchanged⟩ := reclaimed_reclaimed (now - staleAfter) now book.links
    refine ⟨same, by rw [ran', none_left], fun collection => ?_⟩
    by_cases own : collection = Lease.links
    · rw [own, kept''.links, kept'.links]
      exact congrArg (List.map Link.members) unchanged
    · exact others' collection own
  · -- What can be leased now is what was open before.
    have free := available_reclaimed crashed now ruleId
    have enough : (available ruleId (reclaimed (now - staleAfter) now book.links)).length ≤ size := by
      rwa [free, List.length_map]
    obtain ⟨_, ran', -⟩ := kept'.run_allocate dated' unique' later ruleId named size
    rw [ran', batch, List.take_of_length_le enough, free, List.map_map]
    exact congrArg Except.ok (List.map_congr_left fun link _ =>
      restamped_reclaimed (now - staleAfter) now worker later link)

namespace System

variable {name : Nat → String}

/-- In every store that operations can leave behind, a reclaim takes back exactly the leases that are too old;
if all of them are, the next lease with enough room gives all open links of its rule. -/
theorem reclaim_recovers (injective : Function.Injective name) (actions : List Action) (now : Instant)
    (staleAfter : Int) (inRange : Record.IsTime (now - staleAfter)) :
    ∃ links : List Link, (after name actions).linkDocuments = links.map Link.members ∧
      ∃ later, Recovers name (after name actions).coordinator.store later
        (after name actions).coordinator.minted now staleAfter links := by
  -- The links are those of the book that is reached, dated within the calendar and with identifiers of their own.
  obtain ⟨book, known, holds⟩ := Holds.reached injective actions
  exact ⟨book.links, holds.kept.links,
    holds.kept.recovers holds.valid.dated holds.supply.unique _ now inRange⟩

/-- On the sample day the only lease is more than five milliseconds old at noon. -/
theorem reclaim_recovers_sampleDay :
    (after Supply.strokes (sampleDay.take 12)).linkDocuments = [(sampleLink "w" 0).members] ∧
      (sampleLink "w" 0).IsStale (noon - 5) ∧
    ∃ links : List Link, (after Supply.strokes (sampleDay.take 12)).linkDocuments = links.map Link.members ∧
      ∃ later, Recovers Supply.strokes (after Supply.strokes (sampleDay.take 12)).coordinator.store later
        (after Supply.strokes (sampleDay.take 12)).coordinator.minted noon 5 links :=
  ⟨by rfl, by decide, reclaim_recovers Supply.strokes_injective (sampleDay.take 12) noon 5 (by decide)⟩

end System

end Lease

end Harvest

import Harvest.Proofs.Lease.System

/-! The life cycle of links: a link is never removed, doubled or moved to another place, and from one
state of the system to the next it takes one step of the cycle or none. What is completed stays as it is
for good, and what is cancelled stays cancelled. -/

namespace Harvest

/-- How links may differ between any two moments. -/
structure Link.Persists (before after : Link) : Prop where
  id : after.id = before.id
  url : after.url = before.url
  ruleId : after.ruleId = before.ruleId
  completed : before.status = .completed → after = before
  cancelled : before.status = .cancelled → after.status = .cancelled

namespace Link

variable {before middle after : Link}

/-- A link persists when nothing happens. -/
theorem Persists.rfl : before.Persists before :=
  ⟨Eq.refl _, Eq.refl _, Eq.refl _, fun _ => Eq.refl _, fun done => done⟩

/-- What persists twice persists throughout. -/
theorem Persists.trans (first : before.Persists middle) (second : middle.Persists after) :
    before.Persists after where
  id := second.id.trans first.id
  url := second.url.trans first.url
  ruleId := second.ruleId.trans first.ruleId
  completed := fun done => by
    -- A completed link has stayed as it was the first time, and is completed the second time too.
    have same := first.completed done
    rw [second.completed (same ▸ done), same]
  cancelled := fun done => second.cancelled (first.cancelled done)

/-- Every step of the life cycle is one that a link persists in. -/
theorem Moves.persists {request : Lease.Request} (moves : Moves request before after) :
    before.Persists after := by
  -- Which link it is stays the same in any case.
  obtain ⟨id, url, ruleId⟩ := moves.identity
  -- Only a repeated cancellation starts from a cancelled link, and no step from a completed one.
  cases moves with
  | stays => exact .rfl
  | leased now active _ => exact ⟨id, url, ruleId, by simp [active], by simp [active]⟩
  | takenBack now leased => exact ⟨id, url, ruleId, by simp [leased], by simp [leased]⟩
  | completed now _ isOpen =>
    rcases isOpen with leased | active
    · exact ⟨id, url, ruleId, by simp [leased], by simp [leased]⟩
    · exact ⟨id, url, ruleId, by simp [active], by simp [active]⟩
  | cancelled now _ incomplete =>
    exact ⟨id, url, ruleId, fun done => absurd done incomplete, fun _ => by rfl⟩

/-- Links that persist among others which come in behind them have persisted all the way. -/
theorem persists_append {links between added later : List Link}
    (first : List.Forall₂ Persists links between) (second : List.Forall₂ Persists (between ++ added) later) :
    ∃ kept others, later = kept ++ others ∧ List.Forall₂ Persists links kept := by
  -- The others stand behind, so that the links are compared in step with each other.
  induction first generalizing later with
  | nil => exact ⟨[], later, by simp, .nil⟩
  | cons persists _ ih =>
    cases second with
    | cons persists' rest =>
      obtain ⟨kept, others, rfl, all⟩ := ih rest
      exact ⟨_ :: kept, others, by rfl, .cons (persists.trans persists') all⟩

end Link

namespace Lease.System

variable {name : Nat → String} {system : System} {book : Book} {known : Nat → Knowledge}

/-- The stored documents of links, in order of insertion. -/
def linkDocuments (system : System) : List Fields :=
  system.coordinator.store.documents links

/-- Every step of a system is one that links persist in. -/
theorem Moves.persists {action : Action} {before after : Link} (moves : system.Moves action before after) :
    before.Persists after := by
  -- A link that does not move at all persists too.
  rcases moves with rfl | ⟨_, _, _, _, move⟩
  · exact .rfl
  · exact move.persists

/-- Links persist over any series of actions, and new ones come in behind them. -/
theorem Holds.persists (injective : Function.Injective name) (holds : system.Holds name book known)
    (more : List Action) :
    ∃ book' known', (more.foldl (step name) system).Holds name book' known' ∧
      ∃ later added, book'.links = later ++ added ∧ List.Forall₂ Link.Persists book.links later := by
  induction more using List.reverseRecOn with
  | nil => exact ⟨book, known, holds, book.links, [], by simp, List.forall₂_same.mpr fun _ _ => .rfl⟩
  | append_singleton more action ih =>
    obtain ⟨book', known', holds', later, added, links', persist⟩ := ih
    obtain ⟨book'', known'', holds'', moved, added', links'', moves⟩ := holds'.steps injective action
    -- Those that came in meanwhile move with the links, and others may come in behind both.
    rw [links'] at moves
    obtain ⟨kept, others, rfl, persist'⟩ :=
      Link.persists_append persist (moves.imp fun _ _ move => move.persists)
    exact ⟨book'', known'', by simpa using holds'', kept, others ++ added', by simp [links''], persist'⟩

/-- The links behind the stored documents have names of their own. With every action each of them stays or
takes one step of the life cycle that is open to the request which is worked on, at its place and before
all new ones; over any further actions it keeps its identity, and what is completed or cancelled stays so.
-/
theorem link_lifeCycle (injective : Function.Injective name) (actions : List Action) :
    ∃ links : List Link, (after name actions).linkDocuments = links.map Link.members ∧
      (links.map Link.id).Nodup ∧
      (∀ action, ∃ moved added,
        (after name (actions ++ [action])).linkDocuments = (moved ++ added).map Link.members ∧
        List.Forall₂ ((after name actions).Moves action) links moved) ∧
      ∀ more, ∃ later added,
        (after name (actions ++ more)).linkDocuments = (later ++ added).map Link.members ∧
        List.Forall₂ Link.Persists links later := by
  -- The documents are those of the book, whose links are told apart by their identifiers.
  obtain ⟨book, known, holds⟩ := Holds.reached injective actions
  refine ⟨book.links, holds.kept.links, holds.supply.unique, fun action => ?_, fun more => ?_⟩
  · obtain ⟨book', _, holds', moved, added, links', moves⟩ := holds.steps injective action
    refine ⟨moved, added, ?_, moves⟩
    rw [after_append_singleton, ← links']
    exact holds'.kept.links
  · obtain ⟨book', _, holds', later, added, links', persist⟩ := holds.persists injective more
    refine ⟨later, added, ?_, persist⟩
    rw [after, List.foldl_append, ← links']
    exact holds'.kept.links

/-- On the sample day the link is leased, and later it is still the same link. -/
theorem link_lifeCycle_sampleDay :
    (after Supply.strokes (sampleDay.take 12)).linkDocuments = [(sampleLink "w" 0).members] ∧
    ∃ links : List Link,
      (after Supply.strokes (sampleDay.take 12)).linkDocuments = links.map Link.members ∧
      (links.map Link.id).Nodup ∧
      (∀ action, ∃ moved added,
        (after Supply.strokes (sampleDay.take 12 ++ [action])).linkDocuments =
          (moved ++ added).map Link.members ∧
        List.Forall₂ ((after Supply.strokes (sampleDay.take 12)).Moves action) links moved) ∧
      ∀ more, ∃ later added,
        (after Supply.strokes (sampleDay.take 12 ++ more)).linkDocuments =
          (later ++ added).map Link.members ∧
        List.Forall₂ Link.Persists links later :=
  ⟨by rfl, link_lifeCycle Supply.strokes_injective (sampleDay.take 12)⟩

end Lease.System

end Harvest

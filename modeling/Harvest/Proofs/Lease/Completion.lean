import Harvest.Proofs.Lease.Series
import Harvest.Proofs.Lease.Settling

/-! Completing links in any store, whatever documents it holds: the links that are completed are told by the set of
their identifiers, and what is completed once is not completed again. -/

namespace Harvest

namespace Lease

/-- The conditions of a completion: which identifiers the links have, and that they are open. -/
def openLinksNamed (ids : List String) : Filter :=
  [Filter.isOneOf "id" ids, Filter.isOneOf "status" [LinkStatus.running.text, LinkStatus.active.text]]

/-- The conditions of a completion choose the documents of open links. -/
theorem chosen_openLinksNamed (ids : List String) : Store.chosen (openLinksNamed ids) = isOpenAmong ids := by
  -- Both conditions look at the same fields of a document.
  funext document
  rw [Bool.eq_iff_iff, isOpenAmong_iff]
  simp [openLinksNamed, Filter.isOneOf, Store.chosen_cons, Condition.holds, same_string_iff]

/-- Only which identifiers there are tells whether a document is one of theirs. -/
theorem isOpenAmong_congr {ids others : List String} (same : ∀ id, id ∈ ids ↔ id ∈ others) :
    isOpenAmong ids = isOpenAmong others := by
  -- The condition asks for a member of the list, wherever it stands.
  funext document
  rw [Bool.eq_iff_iff, isOpenAmong_iff, isOpenAmong_iff]
  simp [same]

/-- A document is one of some identifiers if it is one of the first or of the second ones. -/
theorem isOpenAmong_append (ids others : List String) (document : Fields) :
    isOpenAmong (ids ++ others) document = (isOpenAmong ids document || isOpenAmong others document) := by
  rw [Bool.eq_iff_iff, Bool.or_eq_true, isOpenAmong_iff, isOpenAmong_iff, isOpenAmong_iff]
  simp only [List.mem_append, or_and_right, exists_or]

/-- The documents of links after those with some identifiers were completed. -/
def closing (ids : List String) (now : Int) (documents : List Fields) : List Fields :=
  documents.map fun document =>
    if isOpenAmong ids document then document.extend (stamp .completed "" now) else document

/-- A document that is none of some links is none of fewer links. -/
theorem not_isOpenAmong_of_subset {ids fewer : List String} (among : fewer ⊆ ids) {document : Fields}
    (closed : isOpenAmong ids document = false) : isOpenAmong fewer document = false := by
  -- An open link of fewer would be one of all.
  rw [Bool.eq_false_iff, Ne, isOpenAmong_iff] at closed ⊢
  rintro ⟨⟨id, member, named⟩, isOpen⟩
  exact closed ⟨⟨id, among member, named⟩, isOpen⟩

/-- After links were completed none of them is open. -/
theorem not_isOpenAmong_closing {ids : List String} {now : Int} {documents : List Fields} {document : Fields}
    (member : document ∈ closing ids now documents) : isOpenAmong ids document = false := by
  -- A document was stamped as completed, or it was not open before.
  obtain ⟨before, -, rfl⟩ := List.mem_map.mp member
  split
  · exact isOpenAmong_stamped (.inl rfl) ids "" now before
  · rename_i closed
    exact Bool.eq_false_iff.mpr closed

/-- Whether links are completed at once or some after others, the same documents come out. -/
theorem closing_append (ids others : List String) (now : Int) (documents : List Fields) :
    closing (ids ++ others) now documents = closing others now (closing ids now documents) := by
  rw [closing, closing, closing, List.map_map]
  refine List.map_congr_left fun document _ => ?_
  simp only [Function.comp_apply, isOpenAmong_append]
  -- A document that the first identifiers close is passed over by the others.
  by_cases first : isOpenAmong ids document
  · simp [first, isOpenAmong_stamped]
  · simp [first]

/-- As many links are completed at once as some after others. -/
theorem countP_append (ids others : List String) (now : Int) (documents : List Fields) :
    documents.countP (isOpenAmong (ids ++ others)) =
      documents.countP (isOpenAmong ids) + (closing ids now documents).countP (isOpenAmong others) := by
  -- By the documents: one that the first completion closes is not counted by the second.
  induction documents with
  | nil => rfl
  | cons document rest ih =>
    rw [closing, List.map_cons, List.countP_cons, List.countP_cons, List.countP_cons, ih, isOpenAmong_append]
    by_cases first : isOpenAmong ids document
    · simp [first, isOpenAmong_stamped, closing]
      omega
    · simp [first, closing]
      omega

/-- The outcome and the effect of completing links by their identifiers, in a store of any documents. -/
structure Coordinator.CompletesSet (name : Nat → String) (coordinator : Coordinator) : Prop where
  /-- The open links among the identifiers are counted, and they are completed; nothing else changes. -/
  completes : ∀ (now : Int) (ids : List String),
    (coordinator.attempt name [] (complete now ids)).1 =
      .ok ((coordinator.store.documents links).countP (isOpenAmong ids)) ∧
    (coordinator.attempt name [] (complete now ids)).2.store.documents links =
      closing ids now (coordinator.store.documents links) ∧
    ∀ collection, collection ≠ links →
      (coordinator.attempt name [] (complete now ids)).2.store.documents collection =
        coordinator.store.documents collection
  /-- A link that is completed has this status, no worker and the time, and its other fields as before. -/
  marks : ∀ (now : Int) (document : Fields),
    Stamped .completed "" now document (document.extend (stamp .completed "" now))
  /-- Neither the order nor the number of identifiers matters, also while calls fail. -/
  asSet : ∀ (now : Int) (outages : List Outage) (ids others : List String), (∀ id, id ∈ ids ↔ id ∈ others) →
    coordinator.attempt name outages (complete now ids) = coordinator.attempt name outages (complete now others)
  /-- Completing links in two goes comes to the same as completing them at once. -/
  append : ∀ (now : Int) (ids others : List String), ∃ first second,
    (coordinator.attempt name [] (complete now ids)).1 = .ok first ∧
    ((coordinator.attempt name [] (complete now ids)).2.attempt name [] (complete now others)).1 = .ok second ∧
    (coordinator.attempt name [] (complete now (ids ++ others))).1 = .ok (first + second) ∧
    ∀ collection, (coordinator.attempt name [] (complete now (ids ++ others))).2.store.documents collection =
      ((coordinator.attempt name [] (complete now ids)).2.attempt name []
        (complete now others)).2.store.documents collection
  /-- Which of two goes comes first does not matter. -/
  commutes : ∀ (now : Int) (ids others : List String) (collection : String),
    ((coordinator.attempt name [] (complete now ids)).2.attempt name []
      (complete now others)).2.store.documents collection =
    ((coordinator.attempt name [] (complete now others)).2.attempt name []
      (complete now ids)).2.store.documents collection
  /-- Whatever is worked on in between, other than making new links, none of the links is completed again. -/
  again : ∀ (now : Int) (ids : List String) (between : List Task),
    (∀ task ∈ between, ∀ ruleId, task.request ≠ .generateLinks ruleId) →
    ∀ (later : Int) (repeated : List String), repeated ⊆ ids →
      let coordinator' := (coordinator.attempt name [] (complete now ids)).2.workOff name between
      (coordinator'.attempt name [] (complete later repeated)).1 = .ok 0 ∧
      ∀ collection, (coordinator'.attempt name [] (complete later repeated)).2.store.documents collection =
        coordinator'.store.documents collection

namespace Coordinator

variable (name : Nat → String) (coordinator : Coordinator)

/-- Completing links is one update of those that are open. -/
theorem attempt_complete (now : Int) (ids : List String) :
    (coordinator.attempt name [] (complete now ids)).1 =
      .ok ((coordinator.store.documents links).countP (isOpenAmong ids)) ∧
    (coordinator.attempt name [] (complete now ids)).2.store.documents links =
      closing ids now (coordinator.store.documents links) ∧
    ∀ collection, collection ≠ links →
      (coordinator.attempt name [] (complete now ids)).2.store.documents collection =
        coordinator.store.documents collection := by
  cases ids with
  | nil =>
    -- Nothing is asked for, and no document is chosen.
    have none_open : isOpenAmong [] = fun _ => false := by
      funext document
      simp [Bool.eq_false_iff, isOpenAmong_iff]
    refine ⟨?_, ?_, fun _ _ => rfl⟩
    · rw [none_open, List.countP_false]
      rfl
    · simp only [closing, none_open, Bool.false_eq_true, if_false, List.map_id']
      rfl
  | cons id rest =>
    refine ⟨?_, ?_, fun collection other => ?_⟩
    · rw [List.countP_eq_length_filter, ← chosen_openLinksNamed]
      rfl
    · rw [closing, ← chosen_openLinksNamed]
      exact coordinator.store.documents_updateMany links _ _
    · exact Store.documents_updateMany_of_ne other coordinator.store _ _

/-- Completing links in two goes leaves the documents that completing them at once does. -/
theorem documents_complete_append (now : Int) (ids others : List String) (collection : String) :
    (coordinator.attempt name [] (complete now (ids ++ others))).2.store.documents collection =
      ((coordinator.attempt name [] (complete now ids)).2.attempt name []
        (complete now others)).2.store.documents collection := by
  obtain ⟨-, changed, kept⟩ := coordinator.attempt_complete name now ids
  obtain ⟨-, changed', kept'⟩ := (coordinator.attempt name [] (complete now ids)).2.attempt_complete name now others
  obtain ⟨-, changedWhole, keptWhole⟩ := coordinator.attempt_complete name now (ids ++ others)
  -- Only the links are changed.
  by_cases linked : collection = links
  · rw [linked, changedWhole, changed', changed, closing_append]
  · rw [keptWhole collection linked, kept' collection linked, kept collection linked]

/-- A whole series of tasks that make no new links opens none that are closed. -/
theorem settled_workOff {ids : List String} (tasks : List Task)
    (old : ∀ task ∈ tasks, ∀ ruleId, task.request ≠ .generateLinks ruleId) (settled : Settled ids coordinator.store) :
    Settled ids (coordinator.workOff name tasks).store := by
  -- By the tasks from the end, each of which keeps what is settled.
  induction tasks using List.reverseRecOn with
  | nil => exact settled
  | append_singleton tasks task ih =>
    rw [workOff_append_singleton]
    have before := ih fun earlier member => old earlier (List.mem_append_left _ member)
    exact Request.settled (old task (by simp)) task.now name
      { coordinator.workOff name tasks with outages := task.outages } before

/-- When none of the identifiers is that of an open link, nothing is completed. -/
theorem attempt_complete_settled {ids : List String} (settled : Settled ids coordinator.store) (now : Int) :
    (coordinator.attempt name [] (complete now ids)).1 = .ok 0 ∧
    ∀ collection, (coordinator.attempt name [] (complete now ids)).2.store.documents collection =
      coordinator.store.documents collection := by
  -- No document is chosen, so that none is counted and none is changed.
  obtain ⟨outcome, changed, others⟩ := coordinator.attempt_complete name now ids
  have none_open : (coordinator.store.documents links).countP (isOpenAmong ids) = 0 :=
    List.countP_eq_zero.mpr fun document member => by simp [settled document member]
  refine ⟨none_open ▸ outcome, fun collection => ?_⟩
  by_cases linked : collection = links
  · rw [linked, changed, closing]
    refine (List.map_congr_left fun document member => ?_).trans (List.map_id' _)
    simp [settled document member]
  · exact others collection linked

/-- The identifiers of a completion count as a set, whichever calls fail. -/
theorem attempt_complete_congr {ids others : List String} (same : ∀ id, id ∈ ids ↔ id ∈ others) (now : Int)
    (outages : List Outage) :
    coordinator.attempt name outages (complete now ids) = coordinator.attempt name outages (complete now others) := by
  cases ids with
  | nil =>
    obtain rfl : others = [] := List.eq_nil_iff_forall_not_mem.mpr fun id among => by simpa using (same id).mpr among
    rfl
  | cons id rest =>
    cases others with
    | nil => exact absurd ((same id).mp List.mem_cons_self) (by simp)
    | cons other rest' =>
      -- Both are the same update because they choose the same documents.
      have asked (id : String) (rest : List String) : coordinator.attempt name outages (complete now (id :: rest)) =
          { coordinator with outages }.perform (.updateMany links (openLinksNamed (id :: rest))
            (stamp .completed "" now)) := rfl
      rw [asked, asked]
      simp only [perform, StoreCall.method, Store.perform, Store.updateMany, chosen_openLinksNamed,
        isOpenAmong_congr same]

/-- Completing links behaves like an operation on the set of their identifiers, in a store of any documents. -/
theorem complete_as_set : coordinator.CompletesSet name where
  completes := coordinator.attempt_complete name
  marks := stamped_extend .completed ""
  asSet now outages ids others same := coordinator.attempt_complete_congr name same now outages
  append now ids others := by
    obtain ⟨outcome, changed, -⟩ := coordinator.attempt_complete name now ids
    obtain ⟨outcome', -⟩ := (coordinator.attempt name [] (complete now ids)).2.attempt_complete name now others
    obtain ⟨whole, -⟩ := coordinator.attempt_complete name now (ids ++ others)
    refine ⟨_, _, outcome, outcome', ?_, coordinator.documents_complete_append name now ids others⟩
    rw [whole, changed, countP_append]
  commutes now ids others collection := by
    -- Both orders come to the same as completing all links at once.
    rw [← coordinator.documents_complete_append, ← coordinator.documents_complete_append]
    have same : ∀ id, id ∈ ids ++ others ↔ id ∈ others ++ ids := fun id => by simp [or_comm]
    rw [coordinator.attempt_complete_congr name same now []]
  again now ids between old later repeated among := by
    have closed : Settled ids (coordinator.attempt name [] (complete now ids)).2.store := by
      intro document member
      rw [(coordinator.attempt_complete name now ids).2.1] at member
      exact not_isOpenAmong_closing member
    have settled := settled_workOff name _ between old closed
    refine attempt_complete_settled name _ (fun document member => ?_) later
    exact not_isOpenAmong_of_subset among (settled document member)

end Coordinator

end Lease

end Harvest

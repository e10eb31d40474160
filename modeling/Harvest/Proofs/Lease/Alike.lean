import Harvest.Proofs.Lease.Series

/-! Coordinators over stores that agree about rules and links. Whatever else these stores hold, all operations go the
same way over them. -/

namespace Harvest

/-- A call needs to know its own collection only, for what it gives and for what it leaves there. -/
theorem Store.perform_congr {store other : Store} {asked : StoreCall}
    (same : store.documents asked.collection = other.documents asked.collection) :
    (store.perform asked).1 = (other.perform asked).1 ∧
      (store.perform asked).2.documents asked.collection = (other.perform asked).2.documents asked.collection := by
  cases asked with
  | find collection filter page =>
    refine ⟨?_, same⟩
    simp only [StoreCall.collection] at same
    simp only [perform, find, same]
  | insertMany collection documents =>
    simp only [StoreCall.collection] at same ⊢
    by_cases empty : documents.isEmpty
    · simp [perform, insertMany, empty, same]
    · -- Whether the values are documents is no matter of the store.
      cases accepted : asDocuments documents <;>
        simp [perform, insertMany, empty, accepted, Bind.bind, Except.bind, Pure.pure, Except.pure, same]
  | updateMany collection filter set =>
    simp only [StoreCall.collection] at same ⊢
    simp [perform, updateMany, same]
  | upsertOne collection filter document =>
    simp only [StoreCall.collection] at same ⊢
    cases accepted : asDocument document <;>
      simp [perform, upsertOne, accepted, Bind.bind, Except.bind, Pure.pure, Except.pure, same]

namespace Lease

/-- Is it one of the collections in which rules and links are kept? -/
def Coordinates (collection : String) : Prop :=
  collection = rules ∨ collection = links

/-- Two coordinators that differ at most in the collections besides rules and links. -/
structure Coordinator.Alike (coordinator other : Coordinator) : Prop where
  documents : ∀ collection, Coordinates collection →
    coordinator.store.documents collection = other.store.documents collection
  outages : coordinator.outages = other.outages
  minted : coordinator.minted = other.minted

namespace Coordinator.Alike

variable {coordinator other : Coordinator}

/-- Each of two coordinators may stand for the other one towards a third. -/
theorem trans {third : Coordinator} (alike : coordinator.Alike other) (alike' : other.Alike third) :
    coordinator.Alike third where
  documents collection owned := (alike.documents collection owned).trans (alike'.documents collection owned)
  outages := alike.outages.trans alike'.outages
  minted := alike.minted.trans alike'.minted

/-- A call to rules or links gives the same to both, and leaves them alike. -/
theorem perform (alike : coordinator.Alike other) {asked : StoreCall} (own : Coordinates asked.collection) :
    (coordinator.perform asked).1 = (other.perform asked).1 ∧
      (coordinator.perform asked).2.Alike (other.perform asked).2 := by
  obtain ⟨result, changed⟩ := Store.perform_congr (alike.documents asked.collection own)
  unfold Coordinator.perform
  rw [alike.outages]
  rcases Outage.strike asked.method other.outages with ⟨_ | reason, outages⟩
  · refine ⟨result, fun collection owned => ?_, rfl, alike.minted⟩
    by_cases itself : collection = asked.collection
    · rw [itself]
      exact changed
    · -- The call leaves the other one of the two collections as it is.
      have left := Store.documents_perform_of_ne itself coordinator.store
      have left' := Store.documents_perform_of_ne itself other.store
      exact left.trans ((alike.documents collection owned).trans left'.symm)
  · exact ⟨rfl, alike.documents, rfl, alike.minted⟩

/-- Both answer what an operation may ask in the same way, and are alike then. -/
theorem answer (alike : coordinator.Alike other) (name : Nat → String) {now : Instant} {request : Request}
    {known : Knowledge} {question : Question} (allowed : Asks now request known question) :
    (coordinator.answer name question).1 = (other.answer name question).1 ∧
      (coordinator.answer name question).2.Alike (other.answer name question).2 := by
  -- By the question: an identifier is counted, and a call goes to the collections that are the same.
  cases question with
  | freshId =>
    exact ⟨congrArg name alike.minted, alike.documents, alike.outages, congrArg (· + 1) alike.minted⟩
  | store asked => exact alike.perform allowed.collection

end Coordinator.Alike

/-- Two systems with the same sessions over coordinators that are alike. -/
structure System.Alike (system other : System) : Prop where
  coordinator : system.coordinator.Alike other.coordinator
  sessions : system.sessions = other.sessions

namespace System.Alike

variable {name : Nat → String} {system : System} {actions : List Action}

/-- Every action leaves a system like one that has come about by actions, if it was so before. -/
theorem step (injective : Function.Injective name) (alike : system.Alike (after name actions)) (action : Action) :
    (system.step name action).Alike (after name (actions ++ [action])) := by
  rw [after_append_singleton]
  obtain ⟨coordinator, sessions⟩ := alike
  obtain ⟨book, known, holds⟩ := Holds.reached injective actions
  -- Only an answered question has anything to do with documents.
  cases action with
  | begin now request => exact ⟨coordinator, congrArg (· ++ [_]) sessions⟩
  | arm outages => exact ⟨⟨coordinator.documents, rfl, coordinator.minted⟩, sessions⟩
  | advance index =>
    simp only [System.step, sessions]
    split
    · rename_i session present
      have keeps := holds.courses index session present
      unfold System.advance
      split
      · exact ⟨coordinator, sessions⟩
      · rename_i question next asking
        rw [asking] at keeps
        -- What the session asks next concerns rules or links, and so it hears the same.
        obtain ⟨reply, left⟩ := coordinator.answer name keeps.1
        exact ⟨left, by simp only [reply, sessions]⟩
    · exact ⟨coordinator, sessions⟩

/-- A session that is worked off alone ends in the same way in both systems. -/
theorem run (injective : Function.Injective name) (alike : system.Alike (after name actions)) {index : Nat}
    {now : Instant} {request : Request} (course : Course Question Question.Answer (Except StoreError request.Result))
    (present : (after name actions).sessions[index]? = some ⟨now, request, course⟩) :
    (course.run (Coordinator.answer name) system.coordinator).1 =
      (course.run (Coordinator.answer name) (after name actions).coordinator).1 := by
  -- The induction is on what is left to be asked; the systems go on together with every answer.
  induction course generalizing system actions with
  | done result => rfl
  | ask question next ih =>
    obtain ⟨book, known, holds⟩ := Holds.reached injective actions
    obtain ⟨reply, -⟩ := alike.coordinator.answer name (holds.courses index _ present).1
    obtain ⟨bound, -⟩ := List.getElem?_eq_some_iff.mp present
    have alike' := alike.step injective (.advance index)
    have advanced : after name (actions ++ [.advance index]) =
        { coordinator := ((after name actions).coordinator.answer name question).2
          sessions := (after name actions).sessions.set index
            ⟨now, request, next ((after name actions).coordinator.answer name question).1⟩ } := by
      simp only [after_append_singleton, System.step, present, advance]
    have onwards := ih _ alike' (by rw [advanced, List.getElem?_set_self bound])
    have present' : system.sessions[index]? = some ⟨now, request, .ask question next⟩ := by
      rw [alike.sessions, present]
    rw [advanced] at onwards
    simpa only [System.step, present', advance, Course.run, reply] using onwards

/-- A request that is worked on alone, with the same calls bound to fail, gives the same in both systems. -/
theorem attempt (injective : Function.Injective name) (alike : system.Alike (after name actions)) (now : Instant)
    (outages : List Outage) (request : Request) :
    (system.coordinator.attempt name outages (request.operation now)).1 =
      ((after name actions).coordinator.attempt name outages (request.operation now)).1 := by
  -- The failures to come are set up and the request is made in both systems, as the last session there.
  have begun := (alike.step injective (.arm outages)).step injective (.begin now request)
  have armed : after name (actions ++ [.arm outages] ++ [.begin now request]) =
      { coordinator := { (after name actions).coordinator with outages }
        sessions := (after name actions).sessions ++ [.start now request] } := by
    rw [after_append_singleton, after_append_singleton]
    rfl
  have ended := begun.run injective (request.operation now).run
    (by rw [armed, List.getElem?_concat_length]; rfl)
  rw [armed] at ended
  exact ended

end System.Alike

end Lease

end Harvest

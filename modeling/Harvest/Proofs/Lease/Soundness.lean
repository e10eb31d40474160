import Harvest.Proofs.Lease.System

/-! Every store that operations can leave behind is sound, also when some of them fail halfway: all
documents read back, links name a worker exactly while they are leased, and names are told apart. No
operation ever finds a document that does not read. -/

namespace Harvest

open Lease

/-- All documents of links and rules read back as what they should be, under names of their own. -/
structure Store.Sound (store : Store) : Prop where
  links : ∀ document ∈ store.documents Lease.links, ∃ link : Link,
    (∀ now, Link.ofJson? now (.object document) = some link) ∧
    (link.worker ≠ "" ↔ link.status = .running)
  linkIds : ((store.documents Lease.links).map fun document => (Json.object document).field "id").Nodup
  rules : ∀ document ∈ store.documents Lease.rules, ∃ rule : Rule,
    (∀ now, Rule.ofJson? now (.object document) = some rule) ∧
    rule.id ≠ "" ∧ rule.pattern ≠ "" ∧ rule.target ≠ ""
  ruleIds : ((store.documents Lease.rules).map fun document => (Json.object document).field "id").Nodup

/-- Texts that are told apart are told apart as values of fields. -/
theorem nodup_map_string {texts : List String} (distinct : texts.Nodup) :
    (texts.map Json.string).Nodup :=
  distinct.map fun _ _ same => Json.string.inj same

/-- A rule without missing fields has an identifier, a pattern and a target. -/
theorem Rule.named_of_missing {rule : Rule} (complete : rule.missing = []) :
    rule.id ≠ "" ∧ rule.pattern ≠ "" ∧ rule.target ≠ "" := by
  -- A field that is empty would be listed under its name.
  simp only [missing, List.filterMap_eq_nil_iff] at complete
  have named (entry : String × String)
      (among : entry ∈ [("id", rule.id), ("pattern", rule.pattern), ("targetLocation", rule.target)]) :
      entry.2 ≠ "" := by
    intro empty
    simpa [empty] using complete entry among
  exact ⟨named ("id", _) (by simp), named ("pattern", _) (by simp), named ("targetLocation", _) (by simp)⟩

/-- A store that keeps a valid book whose links have names of their own is sound. -/
theorem Lease.Book.Kept.sound {book : Book} {store : Store} (kept : book.Kept store) (valid : book.Valid)
    (unique : (book.links.map Link.id).Nodup) : store.Sound where
  links := by
    rw [kept.links]
    intro document among
    obtain ⟨link, member, rfl⟩ := List.mem_map.mp among
    refine ⟨link, Link.ofJson?_members (valid.dated link member), ?_⟩
    -- Consistency of a link is kept as a comparison of two decisions.
    have consistent := valid.consistent link member
    simp only [Link.isConsistent, beq_iff_eq, decide_eq_decide] at consistent
    exact consistent.symm
  linkIds := by
    rw [kept.links, List.map_map]
    have texts := nodup_map_string unique
    rwa [List.map_map] at texts
  rules := by
    rw [kept.rules]
    intro document among
    obtain ⟨rule, member, rfl⟩ := List.mem_map.mp among
    -- No rule is stored in which something is missing.
    obtain ⟨fits, complete⟩ := valid.usable rule member
    exact ⟨rule, Rule.ofJson?_members fits, Rule.named_of_missing complete⟩
  ruleIds := by
    rw [kept.rules, List.map_map]
    have texts := nodup_map_string valid.ruleIds
    rwa [List.map_map] at texts

namespace Lease.System

variable {name : Nat → String} {system : System}

/-- An operation that nothing comes in between is worked off by advancing its session alone. -/
theorem advance_run {index : Nat} {now : Instant} {request : Request}
    (course : Course Question Question.Answer (Except StoreError request.Result))
    (present : system.sessions[index]? = some ⟨now, request, course⟩) :
    ∃ count, (List.replicate count (.advance index)).foldl (step name) system =
      { coordinator := (course.run (Coordinator.answer name) system.coordinator).2
        sessions := system.sessions.set index
          ⟨now, request, .done (course.run (Coordinator.answer name) system.coordinator).1⟩ } := by
  -- One question after the other is answered, until the course ends.
  induction course generalizing system with
  | done result =>
    refine ⟨0, ?_⟩
    -- Nothing is left to be asked, and the session stays as it is.
    obtain ⟨bound, itself⟩ := List.getElem?_eq_some_iff.mp present
    simp [Course.run, ← itself]
  | ask question next ih =>
    obtain ⟨bound, -⟩ := List.getElem?_eq_some_iff.mp present
    have answered : system.step name (.advance index) =
        { coordinator := (system.coordinator.answer name question).2
          sessions := system.sessions.set index
            ⟨now, request, next (system.coordinator.answer name question).1⟩ } := by
      simp only [step, present, advance]
    have present' : (system.step name (.advance index)).sessions[index]? =
        some ⟨now, request, next (system.coordinator.answer name question).1⟩ := by
      rw [answered, List.getElem?_set_self bound]
    -- The rest of the course begins where the answer has led.
    obtain ⟨count, ran⟩ := ih _ present'
    refine ⟨count + 1, ?_⟩
    rw [List.replicate_succ, List.foldl_cons, ran, answered]
    simp only [List.set_set, Course.run]

/-- What an operation leaves behind that runs to its end is also reached by actions. -/
theorem run_reached (actions : List Action) (now : Instant) (outages : List Outage)
    (request : Request) :
    ∃ more,
      (after name (actions ++ more)).coordinator =
        (({ (after name actions).coordinator with outages }).run name (request.operation now)).2 ∧
      (after name (actions ++ more)).sessions[(after name actions).sessions.length]? =
        some ⟨now, request,
          .done (({ (after name actions).coordinator with outages }).run name (request.operation now)).1⟩ := by
  -- The failures to come are set up, the request is made, and its session is worked off.
  let system := after name (actions ++ [.arm outages, .begin now request])
  have begun : system = {
      coordinator := { (after name actions).coordinator with outages }
      sessions := (after name actions).sessions ++ [.start now request] } := by
    simp [system, after, step]
  have present : system.sessions[(after name actions).sessions.length]? = some (.start now request) := by
    rw [begun]
    simp
  obtain ⟨count, ran⟩ : ∃ count, (List.replicate count (.advance _)).foldl (step name) system = _ :=
    advance_run (request.operation now).run present
  -- As many questions are answered as the operation asks.
  let more : List Action := [.arm outages, .begin now request] ++
    List.replicate count (.advance (after name actions).sessions.length)
  have reached : after name (actions ++ more) =
      (List.replicate count (.advance (after name actions).sessions.length)).foldl (step name) system := by
    rw [← List.append_assoc, after, List.foldl_append]
    rfl
  refine ⟨more, ?_⟩
  rw [reached, ran, begun]
  simp [Coordinator.run]

/-- Every store that is reached from an empty one, with failures at any calls, is sound; no operation so
far and none that is run next complains that a document does not read. -/
theorem reached_sound (injective : Function.Injective name) (actions : List Action) :
    (after name actions).coordinator.store.Sound ∧
      (∀ session ∈ (after name actions).sessions, ∀ reason,
        session.course ≠ .done (.error (.serialization reason))) ∧
      ∀ (now : Instant) (outages : List Outage) (request : Request) (reason : String),
        (({ (after name actions).coordinator with outages }).run name (request.operation now)).1 ≠
          .error (.serialization reason) := by
  -- No session ends with such a complaint, and an operation that is run is a session of its own.
  have quiet (actions : List Action) : ∀ session ∈ (after name actions).sessions, ∀ reason,
      session.course ≠ .done (.error (.serialization reason)) := by
    obtain ⟨book, known, holds⟩ := Holds.reached injective actions
    intro session among reason failed
    obtain ⟨index, present⟩ := List.getElem?_of_mem among
    -- The session has kept to its terms up to its end.
    have ends := holds.courses index session present
    rw [failed, Course.keeps_done] at ends
    exact Request.readsWell_of_ends ends reason rfl
  obtain ⟨book, known, holds⟩ := Holds.reached injective actions
  refine ⟨holds.kept.sound holds.valid holds.supply.unique, quiet actions, ?_⟩
  intro now outages request reason failed
  -- The operation ends like a session of a longer run, and no session ends so.
  obtain ⟨more, -, ended⟩ := @run_reached name actions now outages request
  refine quiet (actions ++ more) _ (List.mem_of_getElem? ended) reason ?_
  rw [failed]

/-- After the sample day, also if the store fails in the middle of it, the store is sound. -/
theorem reached_sound_sampleDay :
    let system :=
      after Supply.strokes (sampleDay.take 10 ++ [.arm [⟨"find", 0, "down"⟩]] ++ sampleDay.drop 10)
    (system.coordinator.store.documents links).length = 1 ∧
    system.coordinator.store.Sound ∧
    (∀ session ∈ system.sessions, ∀ reason, session.course ≠ .done (.error (.serialization reason))) ∧
    ∀ (now : Instant) (outages : List Outage) (request : Request) (reason : String),
      (({ system.coordinator with outages }).run Supply.strokes (request.operation now)).1 ≠
        .error (.serialization reason) :=
  ⟨by decide +kernel, reached_sound Supply.strokes_injective _⟩

end Lease.System

end Harvest

import Harvest.Proofs.Lease.Terms

/-! The operation of every request keeps to the terms: it makes only calls that are open to its request, and
within the terms it never finds a document that does not read. -/

namespace Harvest.Lease

/-- What is said of an operation's end goes on with the next operation unless it failed. -/
def Onwards (goes : α → Knowledge → Prop) (fails : StoreError → Knowledge → Prop) (known : Knowledge) :
    Except StoreError α → Prop
  | .ok result => goes result known
  | .error cause => fails cause known

/-- An operation keeps to the terms of a request and ends as described. -/
def Operation.Keeps (now : Instant) (request : Request) (operation : Operation α)
    (ends : Knowledge → Except StoreError α → Prop) (known : Knowledge) : Prop :=
  Course.Keeps (terms now request) ends operation.run known

namespace Operation

variable {now : Instant} {request : Request} {known : Knowledge}

/-- An operation that only gives a result keeps to any terms. -/
theorem keeps_pure {ends : Knowledge → Except StoreError α → Prop} {result : α}
    (ended : ends known (.ok result)) :
    Operation.Keeps now request (pure result) ends known :=
  ended

/-- An operation that only fails keeps to any terms. -/
theorem keeps_throw {ends : Knowledge → Except StoreError α → Prop} {cause : StoreError}
    (ended : ends known (.error cause)) :
    Operation.Keeps now request (throw cause : Operation α) ends known :=
  ended

/-- An operation followed by another one keeps to the terms if the second one does after each result of the
first one, and a failure of the first one is an end. -/
theorem keeps_bind {first : Operation α} {next : α → Operation β}
    {ends : Knowledge → Except StoreError β → Prop}
    (kept : Operation.Keeps now request first
      (Onwards (fun result known => Operation.Keeps now request (next result) ends known)
        (fun cause known => ends known (.error cause))) known) :
    Operation.Keeps now request (first >>= next) ends known := by
  -- The next course of a failure ends at once with the cause.
  refine Course.keeps_bind (Course.Keeps.imp kept fun known result ended => ?_)
  cases result with
  | ok result => exact ended
  | error cause => exact ended

/-- An operation that is tried keeps to the terms, and its failure is a result. -/
theorem keeps_tried {tried : Operation α} {ends : Knowledge → Except StoreError (Except StoreError α) → Prop}
    (kept : Operation.Keeps now request tried (fun known result => ends known (.ok result)) known) :
    Operation.Keeps now request (ExceptT.lift tried.run) ends known :=
  Course.keeps_bind kept

/-- A call that may be made keeps to the terms, and ends with whatever is heard. -/
theorem keeps_call {request : Request} {asked : StoreCall}
    {ends : Knowledge → Except StoreError asked.Result → Prop}
    (allowed : Asks now request known (.store asked))
    (heard : ∀ answer known', Hears known (.store asked) answer known' → ends known' answer) :
    Operation.Keeps now request (call asked) ends known :=
  ⟨allowed, heard⟩

/-- Asking for a fresh identifier is always open. -/
theorem keeps_freshId {ends : Knowledge → Except StoreError String → Prop}
    (heard : ∀ id, ends { known.unread with minted := known.minted ++ [id] } (.ok id)) :
    Operation.Keeps now request freshId ends known :=
  ⟨.freshId, fun id _ same => same ▸ heard id⟩

/-- Deciding between a result and a failure keeps to the terms if both ends are as described. -/
theorem keeps_decode {read? : Json → Option α} {documents : List Json} {values : List α}
    {ends : Knowledge → Except StoreError (List α) → Prop}
    (readable : documents.mapM read? = some values) (ended : ends known (.ok values)) :
    Operation.Keeps now request (decode read? documents) ends known := by
  simp only [decode, readable]
  exact ended

end Operation

/-- Documents made from values are read back as these. -/
theorem mapM_of_readable {read? : Json → Option α} {document : α → Json} {values : List α}
    (readable : ∀ value ∈ values, read? (document value) = some value) :
    (values.map document).mapM read? = some values := by
  -- The documents are read one after the other, and none stops the reading.
  induction values with
  | nil => rfl
  | cons value rest ih =>
    have first := readable value (by simp)
    have others := ih fun other member => readable other (by simp [member])
    simp [first, others]

section Reading

variable {now : Instant} {request : Request} {known : Knowledge} {β : Type}
  {ends : Knowledge → Except StoreError β → Prop}

/-- Links that are read always read back, so an operation that reads them goes on or hears of an outage. -/
theorem keeps_readLinks {filter : Filter} {page : Page} {next : List Link → Operation β}
    (goes : ∀ found : List Link, (∀ link ∈ found, Store.chosen filter link.members = true) →
      Operation.Keeps now request (next found) ends (known.reading found))
    (fails : ∀ reason, ends known.unread (.error (.backend reason))) :
    Operation.Keeps now request
      (do
        let documents ← call (.find links filter page)
        next (← decode (Link.ofJson? now) documents)) ends known := by
  refine Operation.keeps_bind (Operation.keeps_call (.findLinks filter page) fun answer known' heard => ?_)
  cases answer with
  | error cause =>
    -- The call has failed before anything was read.
    obtain ⟨⟨reason, rfl⟩, rfl⟩ := heard
    exact fails reason
  | ok documents =>
    -- What is heard are documents of links that the filter has chosen.
    obtain ⟨found, rfl, stored, rfl⟩ := heard.1 rfl
    have readable : (found.map Link.toJson).mapM (Link.ofJson? now) = some found :=
      mapM_of_readable fun link member => Link.ofJson?_members (stored link member).1 now
    exact Operation.keeps_bind
      (Operation.keeps_decode readable (goes found fun link member => (stored link member).2))

/-- Rules that are read always read back, so an operation that reads them goes on or hears of an outage. -/
theorem keeps_readRules {filter : Filter} {page : Page} {next : List Rule → Operation β}
    (goes : ∀ found : List Rule, Operation.Keeps now request (next found) ends known.unread)
    (fails : ∀ reason, ends known.unread (.error (.backend reason))) :
    Operation.Keeps now request
      (do
        let documents ← call (.find rules filter page)
        next (← decode (Rule.ofJson? now) documents)) ends known := by
  refine Operation.keeps_bind (Operation.keeps_call (.findRules filter page) fun answer known' heard => ?_)
  cases answer with
  | error cause =>
    obtain ⟨⟨reason, rfl⟩, rfl⟩ := heard
    exact fails reason
  | ok documents =>
    -- What is heard are documents of rules, whatever the filter asked for.
    obtain ⟨⟨found, rfl, stored⟩, rfl⟩ := heard.2 rfl
    have readable : (found.map Rule.toJson).mapM (Rule.ofJson? now) = some found :=
      mapM_of_readable fun rule member => Rule.ofJson?_members (stored rule member) now
    exact Operation.keeps_bind (Operation.keeps_decode readable (goes found))

/-- A listing of links gives what was read, or hears of an outage. -/
theorem keeps_listLinks {filter : Filter} {page : Page}
    {ends : Knowledge → Except StoreError (List Link) → Prop}
    (goes : ∀ found : List Link, (∀ link ∈ found, Store.chosen filter link.members = true) →
      ends (known.reading found) (.ok found))
    (fails : ∀ reason, ends known.unread (.error (.backend reason))) :
    Operation.Keeps now request
      (do decode (Link.ofJson? now) (← call (.find links filter page))) ends known := by
  -- A listing goes on with nothing but its result.
  have read : Operation.Keeps now request
      (call (.find links filter page) >>= fun documents =>
        decode (Link.ofJson? now) documents >>= pure) ends known :=
    keeps_readLinks (fun found chosen => Operation.keeps_pure (goes found chosen)) fails
  simpa only [bind_pure] using read

/-- A listing of rules gives what was read, or hears of an outage. -/
theorem keeps_listRules {filter : Filter} {page : Page}
    {ends : Knowledge → Except StoreError (List Rule) → Prop}
    (goes : ∀ found : List Rule, ends known.unread (.ok found))
    (fails : ∀ reason, ends known.unread (.error (.backend reason))) :
    Operation.Keeps now request
      (do decode (Rule.ofJson? now) (← call (.find rules filter page))) ends known := by
  -- A listing goes on with nothing but its result.
  have read : Operation.Keeps now request
      (call (.find rules filter page) >>= fun documents =>
        decode (Rule.ofJson? now) documents >>= pure) ends known :=
    keeps_readRules (fun found => Operation.keeps_pure (goes found)) fails
  simpa only [bind_pure] using read

/-- Looking for a rule gives one, or fails without a complaint about its document. -/
theorem keeps_getRule {id : String} {ends : Knowledge → Except StoreError Rule → Prop}
    (goes : ∀ rule, ends known.unread (.ok rule))
    (fails : ∀ cause : StoreError, cause.ReadsWell → ends known.unread (.error cause)) :
    Operation.Keeps now request (getRule now id) ends known := by
  refine keeps_readRules (fun found => ?_) fun reason => fails _ (by simp [StoreError.ReadsWell])
  -- The first of the rules that were read is the one looked for.
  cases found with
  | nil => exact fails (.notFound _) (by simp [StoreError.ReadsWell])
  | cons rule rest => exact goes rule

/-- A change of stored documents happens, or an outage is heard of. -/
theorem keeps_updateMany {collection : String} {filter : Filter} {set : Fields}
    {ends : Knowledge → Except StoreError Nat → Prop}
    (allowed : Asks now request known (.store (.updateMany collection filter set)))
    (goes : ∀ count, ends known.unread (.ok count))
    (fails : ∀ reason, ends known.unread (.error (.backend reason))) :
    Operation.Keeps now request (call (.updateMany collection filter set)) ends known := by
  refine Operation.keeps_call allowed fun answer known' heard => ?_
  -- The count of changed documents tells the operation nothing that it has to know.
  cases answer with
  | error cause =>
    obtain ⟨⟨reason, rfl⟩, rfl⟩ := heard
    exact fails reason
  | ok count =>
    cases heard
    exact goes count

/-- What goes on in the same way with any identifier keeps to the terms with a fresh one, if one is
missing. -/
theorem keeps_named {next : String → Operation β} (given : String)
    (goes : ∀ id known, Operation.Keeps now request (next id) ends known) :
    Operation.Keeps now request (do next (← if given = "" then freshId else pure given)) ends known := by
  -- Only a missing identifier is asked for.
  split
  · exact Operation.keeps_bind (Operation.keeps_freshId fun id => goes id _)
  · exact goes given _

/-- New links are given the fresh identifiers that are asked for, in turn. -/
theorem keeps_newLinks (ruleId : String) (urls : List String)
    {ends : Knowledge → Except StoreError (List Json) → Prop}
    (goes : ∀ added : List Link,
      (∀ link ∈ added, link.status = .active ∧ link.worker = "" ∧ link.updated = now) →
      ends { known.unread with minted := known.minted ++ added.map Link.id }
        (.ok (added.map Link.toJson))) :
    Operation.Keeps now request (newLinks now ruleId urls) ends known.unread := by
  -- Each address takes one identifier more, which the later ones find already given out.
  induction urls generalizing known ends with
  | nil =>
    have none_added := goes [] (by simp)
    simp only [List.map_nil, List.append_nil] at none_added
    exact Operation.keeps_pure none_added
  | cons url rest ih =>
    refine Operation.keeps_bind (Operation.keeps_freshId fun id => ?_)
    refine Operation.keeps_bind (@ih { known with minted := known.minted ++ [id] } _
      fun added active => ?_)
    -- The new link stands in front of those for the other addresses.
    refine Operation.keeps_pure ?_
    have all := goes ({ id, url, ruleId, updated := now } :: added) (by simpa using active)
    simpa [Knowledge.unread, List.append_assoc] using all

end Reading

section Requests

variable {now : Instant}

/-- An outage is no complaint about a document. -/
theorem readsWell_backend (reason : String) : (StoreError.backend reason).ReadsWell := by
  simp [StoreError.ReadsWell]

/-- A rule passes the check exactly if no field is missing; the failure is no complaint about a document. -/
theorem validate_cases (rule : Rule) :
    (rule.validate = .ok () ∧ rule.missing = []) ∨
      ∃ cause : StoreError, rule.validate = .error cause ∧ cause.ReadsWell := by
  -- The check lists the missing fields and fails if there are any.
  by_cases complete : rule.missing.isEmpty
  · exact .inl ⟨by simp [Rule.validate, complete], by simpa using complete⟩
  · refine .inr ⟨_, by rw [Rule.validate, if_neg complete], ?_⟩
    simp [StoreError.ReadsWell]

/-- Storing a rule keeps to the terms: only a rule that passes the check is stored. -/
theorem upsertRule_keeps (given : Rule) (fits : given.Fits) :
    Operation.Keeps now (.upsertRule given fits) (upsertRule now given)
      (Request.Ends (.upsertRule given fits)) {} := by
  refine keeps_named given.id fun id known => ?_
  -- The name and the date are set anew; all other fields are those of the given rule.
  have dated : ({ given with id, updated := now.1 } : Rule).Fits :=
    { fits with updated := now.2 }
  generalize ({ given with id, updated := now.1 } : Rule) = rule at dated ⊢
  -- A rule that does not pass the check never comes to the store.
  rcases validate_cases rule with ⟨passed, complete⟩ | ⟨cause, refused, readsWell⟩
  · simp only [passed]
    refine Operation.keeps_bind (Operation.keeps_call (.putRule ⟨dated, complete⟩)
      fun answer known' heard => ?_)
    cases answer with
    | error cause =>
      obtain ⟨⟨reason, rfl⟩, rfl⟩ := heard
      exact readsWell_backend reason
    | ok done => trivial
  · simp only [refused]
    exact Operation.keeps_bind (Operation.keeps_throw readsWell)

/-- Cancelling a rule keeps to the terms. -/
theorem cancelRule_keeps (id : String) :
    Operation.Keeps now (.cancelRule id) (cancelRule now id) (Request.Ends (.cancelRule id)) {} := by
  refine Operation.keeps_bind (keeps_getRule (fun rule => ?_) fun cause readsWell => readsWell)
  -- First the rule is cancelled, then its links.
  refine Operation.keeps_bind (keeps_updateMany .cancelRule (fun count => ?_) readsWell_backend)
  exact keeps_updateMany (.cancelLinks rfl) (fun count => trivial) readsWell_backend

/-- Generating links keeps to the terms: the new links have the identifiers that were given out for them. -/
theorem generateLinks_keeps (ruleId : String) :
    Operation.Keeps now (.generateLinks ruleId) (generateLinks now ruleId)
      (Request.Ends (.generateLinks ruleId)) {} := by
  refine Operation.keeps_bind (keeps_getRule (fun rule => ?_) fun cause readsWell => readsWell)
  dsimp only [Onwards]
  -- A rule that is cancelled is refused, which is no complaint about its document.
  split
  · refine Operation.keeps_bind (Operation.keeps_throw ?_)
    simp [Onwards, Request.Ends, StoreError.ReadsWell]
  cases pages : rule.pageUrls with
  | error cause =>
    refine Operation.keeps_throw ?_
    -- The only complaint is about the link pattern.
    unfold Rule.pageUrls at pages
    split at pages
    · cases pages
    · cases pages
      simp [Request.Ends, StoreError.ReadsWell]
  | ok urls =>
    -- The old links of the rule make way for the new ones.
    refine Operation.keeps_bind (keeps_updateMany (.cancelLinks rfl) (fun count => ?_) readsWell_backend)
    refine Operation.keeps_bind (keeps_newLinks ruleId urls fun added active => ?_)
    refine Operation.keeps_bind (Operation.keeps_call (.addLinks rfl active) fun answer known' heard => ?_)
    cases answer with
    | error cause =>
      obtain ⟨⟨reason, rfl⟩, rfl⟩ := heard
      exact readsWell_backend reason
    | ok done =>
      -- At last the rule is told when its links were generated.
      exact Operation.keeps_bind
        (keeps_updateMany .dateRule (fun count => Operation.keeps_pure trivial) readsWell_backend)

/-- Leasing links keeps to the terms: only links of the rule are claimed, and the last read tells the
lease. -/
theorem allocate_keeps (ruleId worker : String) (size : Nat) :
    Operation.Keeps now (.allocate ruleId worker size) (allocate now ruleId worker size)
      (Request.Ends (.allocate ruleId worker size)) {} := by
  unfold allocate
  dsimp only
  -- A worker without a name is refused, and a lease of no links asks nothing.
  by_cases named : worker = ""
  · rw [if_pos named]
    refine Operation.keeps_bind (Operation.keeps_throw ?_)
    simp [Onwards, Request.Ends, StoreError.ReadsWell]
  rw [if_neg named]
  by_cases empty : size = 0
  · rw [if_pos empty]
    exact Operation.keeps_pure (by simp [Request.Ends])
  rw [if_neg empty]
  refine keeps_readLinks (fun candidates chosen => ?_) readsWell_backend
  split
  · exact Operation.keeps_pure (by simp [Request.Ends])
  -- What is claimed are the links just read, which the filter has chosen for their rule.
  have own : ∀ id ∈ candidates.map Link.id,
      (id, ruleId) ∈ (({} : Knowledge).reading candidates).placed := by
    intro id member
    obtain ⟨link, among, rfl⟩ := List.mem_map.mp member
    have ofRule := ((link.chosen_ofRule ruleId .active).mp (chosen link among)).1
    simp only [Knowledge.reading, List.nil_append]
    exact List.mem_map.mpr ⟨link, among, by rw [ofRule]⟩
  refine Operation.keeps_bind
    (keeps_updateMany (.lease named own) (fun count => ?_) readsWell_backend)
  refine keeps_listLinks (fun held chosen => ?_) readsWell_backend
  -- The last filter asks for the worker and the status themselves.
  intro link among
  obtain ⟨-, ofWorker, leased⟩ := (link.chosen_held _ worker .running).mp (chosen link among)
  exact ⟨among, ofWorker, leased⟩

/-- Completing links keeps to the terms. -/
theorem complete_keeps (ids : List String) :
    Operation.Keeps now (.complete ids) (complete now ids) (Request.Ends (.complete ids)) {} := by
  unfold complete
  -- Without identifiers nothing is asked.
  split
  · exact Operation.keeps_pure trivial
  · exact keeps_updateMany .complete (fun count => trivial) readsWell_backend

/-- Looking for the first active rule among candidates keeps to the terms. -/
theorem firstActive_keeps {request : Request} {known : Knowledge} (candidates checked : List String)
    {ends : Knowledge → Except StoreError (Option Rule) → Prop}
    (goes : ∀ known found, ends known (.ok found))
    (fails : ∀ known (cause : StoreError), cause.ReadsWell → ends known (.error cause)) :
    Operation.Keeps now request (firstActive now checked candidates) ends known := by
  -- One candidate is looked at after the other, until one is active or there are none left.
  induction candidates generalizing checked known with
  | nil => exact Operation.keeps_pure (goes known none)
  | cons id rest ih =>
    unfold firstActive
    split
    · -- A candidate that was looked at before is passed over.
      exact ih checked
    refine Operation.keeps_bind (Operation.keeps_tried (keeps_getRule (fun rule => ?_)
      fun cause readsWell => ?_))
    · dsimp only [Onwards]
      split
      · exact Operation.keeps_pure (goes _ _)
      · exact ih (id :: checked)
    · -- A rule that is not there only means that the next candidate is tried.
      cases cause with
      | notFound what => exact ih (id :: checked)
      | backend reason => exact Operation.keeps_throw (fails _ _ readsWell)
      | serialization reason => exact absurd rfl (readsWell reason)
      | invalidInput reason => exact Operation.keeps_throw (fails _ _ readsWell)

/-- Selecting a rule keeps to the terms. -/
theorem selectRule_keeps (sample : Nat) (shuffle : List String → List String) (wanted : Option String) :
    Operation.Keeps now (.selectRule sample shuffle wanted) (selectRule now sample shuffle wanted)
      (Request.Ends (.selectRule sample shuffle wanted)) {} := by
  unfold selectRule
  -- A wanted rule is looked up; otherwise one is looked for among the active links.
  split
  · exact Operation.keeps_bind
      (keeps_getRule (fun rule => Operation.keeps_pure trivial) fun cause readsWell => readsWell)
  · exact keeps_readLinks
      (fun found chosen => firstActive_keeps _ _ (fun _ _ => trivial) fun _ _ readsWell => readsWell)
      readsWell_backend

/-- The operation of every request keeps to its terms from the start. -/
theorem Request.operation_keeps (now : Instant) (request : Request) :
    Operation.Keeps now request (request.operation now) request.Ends {} := by
  -- Each kind of request has a lemma of its own, or is one call.
  cases request with
  | upsertRule rule fits => exact upsertRule_keeps rule fits
  | getRule id => exact keeps_getRule (fun rule => trivial) fun cause readsWell => readsWell
  | listRules page => exact keeps_listRules (fun found => trivial) readsWell_backend
  | linksOf ruleId page => exact keeps_listLinks (fun found chosen => trivial) readsWell_backend
  | dueRules at_ => exact keeps_readRules (fun found => Operation.keeps_pure trivial) readsWell_backend
  | cancelRule id => exact cancelRule_keeps id
  | generateLinks ruleId => exact generateLinks_keeps ruleId
  | allocate ruleId worker size => exact allocate_keeps ruleId worker size
  | complete ids => exact complete_keeps ids
  | reclaim staleAfter => exact keeps_updateMany (.takeBack _) (fun count => trivial) readsWell_backend
  | selectRule sample shuffle wanted => exact selectRule_keeps sample shuffle wanted

end Requests

end Harvest.Lease

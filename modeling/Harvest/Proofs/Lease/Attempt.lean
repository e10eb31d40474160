import Harvest.Proofs.Lease.Undisturbed
import Harvest.Proofs.Outcome

/-! Operations that are run alone, while calls of the store may fail: what an operation does to the rules and links
behind the documents, told however far it comes. -/

namespace Harvest

/-- The collection that a call reads or changes. -/
def StoreCall.collection : StoreCall → String
  | find collection _ _ => collection
  | insertMany collection _ => collection
  | updateMany collection _ _ => collection
  | upsertOne collection _ _ => collection

/-- A call leaves all collections but its own alone, whether or not it succeeds. -/
theorem Store.documents_perform_of_ne {asked : StoreCall} {other : String} (different : other ≠ asked.collection)
    (store : Store) : (store.perform asked).2.documents other = store.documents other := by
  -- A call that the store refuses changes nothing at all.
  cases asked with
  | find collection filter page => rfl
  | insertMany collection documents =>
    cases inserted : store.insertMany collection documents with
    | error cause => simp only [perform, inserted]
    | ok after =>
      simp only [perform, inserted]
      unfold insertMany at inserted
      split at inserted
      · rw [Except.ok.inj inserted]
      · obtain ⟨added, -, put⟩ := ok_of_bind inserted
        rw [← Except.ok.inj put]
        exact documents_withDocuments_of_ne different ..
  | updateMany collection filter set => exact documents_updateMany_of_ne different ..
  | upsertOne collection filter document =>
    cases upserted : store.upsertOne collection filter document with
    | error cause => simp only [perform, upserted]
    | ok after =>
      simp only [perform, upserted]
      obtain ⟨fields, -, put⟩ := ok_of_bind upserted
      rw [← Except.ok.inj put]
      exact documents_withDocuments_of_ne different ..

/-- If failures are still to come, some were to come before; so were they if one has struck. -/
theorem Outage.ne_nil_of_strike {method : String} {outages : List Outage}
    (left : (strike method outages).1 ≠ none ∨ (strike method outages).2 ≠ []) : outages ≠ [] := by
  rintro rfl
  simp [strike] at left

namespace Lease

/-- The rules and links behind the documents of a store, and how many identifiers were given out so far. -/
structure Ledger extends Book where
  minted : Nat := 0

/-- The ledger is what stands behind a coordinator: its store holds the documents of the rules and links and
nothing else. Calls are bound to fail only if they may. -/
structure Ledger.Behind (ledger : Ledger) (mayFail : Prop) (coordinator : Coordinator) : Prop where
  kept : ledger.toBook.Kept coordinator.store
  others : ∀ collection, collection ≠ rules → collection ≠ links → coordinator.store.documents collection = []
  minted : coordinator.minted = ledger.minted
  outages : coordinator.outages ≠ [] → mayFail

/-- Two coordinators hold the same documents if the rules and links behind them are the same. -/
theorem Ledger.Behind.documents_eq {ledger other : Ledger} {mayFail mayFail' : Prop} {coordinator later : Coordinator}
    (behind : ledger.Behind mayFail coordinator) (behind' : other.Behind mayFail' later)
    (same : other.toBook = ledger.toBook) (collection : String) :
    later.store.documents collection = coordinator.store.documents collection := by
  -- By the collection: rules, links, or one that no coordinator touches.
  by_cases ruled : collection = rules
  · rw [ruled, behind.kept.rules, behind'.kept.rules, same]
  by_cases linked : collection = links
  · rw [linked, behind.kept.links, behind'.kept.links, same]
  rw [behind.others collection ruled linked, behind'.others collection ruled linked]

/-- New links of a rule for addresses, under the identifiers from a number on. -/
def freshLinks (name : Nat → String) (now : Int) (ruleId : String) : Nat → List String → List Link
  | _, [] => []
  | minted, url :: rest =>
    { id := name minted, url, ruleId, updated := now } :: freshLinks name now ruleId (minted + 1) rest

/-- There is a new link for each address. -/
theorem map_url_freshLinks (name : Nat → String) (now : Int) (ruleId : String) (minted : Nat) (urls : List String) :
    (freshLinks name now ruleId minted urls).map Link.url = urls := by
  -- By the addresses, with one identifier more each time.
  induction urls generalizing minted with
  | nil => rfl
  | cons url rest ih => rw [freshLinks, List.map_cons, ih]

/-- New links wait for a worker. -/
theorem waiting_of_mem_freshLinks {name : Nat → String} {now : Int} {ruleId : String} {minted : Nat}
    {urls : List String} {link : Link} (among : link ∈ freshLinks name now ruleId minted urls) :
    link.ruleId = ruleId ∧ link.status = .active ∧ link.worker = "" ∧ link.updated = now := by
  -- By the addresses, each of which gives a link of the same kind.
  induction urls generalizing minted with
  | nil => simp [freshLinks] at among
  | cons url rest ih =>
    rcases List.mem_cons.mp among with rfl | later
    · exact ⟨rfl, rfl, rfl, rfl⟩
    · exact ih later

/-- The operation, run by any coordinator with the ledger behind it, has an end as described: what it gives, and
which ledger it leaves. -/
def Operation.Leads (name : Nat → String) (mayFail : Prop) (ends : Except StoreError α → Ledger → Prop)
    (operation : Operation α) (ledger : Ledger) : Prop :=
  ∀ coordinator : Coordinator, ledger.Behind mayFail coordinator →
    ∃ after : Ledger, after.Behind mayFail (coordinator.run name operation).2 ∧
      ends (coordinator.run name operation).1 after

/-- What is said of the end of an operation goes on with the next operation unless it failed. -/
def Further (goes : α → Ledger → Prop) (fails : StoreError → Ledger → Prop) :
    Except StoreError α → Ledger → Prop
  | .ok result => goes result
  | .error cause => fails cause

namespace Operation

variable {name : Nat → String} {mayFail : Prop} {ledger : Ledger}

/-- What is said of the end of an operation may say less. -/
theorem Leads.imp {operation : Operation α} {ends ends' : Except StoreError α → Ledger → Prop}
    (led : operation.Leads name mayFail ends ledger)
    (less : ∀ outcome after, ends outcome after → ends' outcome after) :
    operation.Leads name mayFail ends' ledger := fun coordinator behind => by
  -- The same ledger stands behind the coordinator at the end.
  obtain ⟨after, behind', ended⟩ := led coordinator behind
  exact ⟨after, behind', less _ _ ended⟩

/-- An operation that only gives a result leaves the ledger as it is. -/
theorem leads_pure {ends : Except StoreError α → Ledger → Prop} {result : α} (ended : ends (.ok result) ledger) :
    Leads name mayFail ends (pure result) ledger :=
  fun _ behind => ⟨ledger, behind, ended⟩

/-- An operation that only fails leaves the ledger as it is. -/
theorem leads_throw {ends : Except StoreError α → Ledger → Prop} {cause : StoreError}
    (ended : ends (.error cause) ledger) : Leads name mayFail ends (throw cause : Operation α) ledger :=
  fun _ behind => ⟨ledger, behind, ended⟩

/-- An operation followed by another one ends like this one from wherever the first ends, or with its failure. -/
theorem leads_bind {first : Operation α} {next : α → Operation β} {ends : Except StoreError β → Ledger → Prop}
    (led : Leads name mayFail (Further (fun result => Leads name mayFail ends (next result))
      fun cause => ends (.error cause)) first ledger) :
    Leads name mayFail ends (first >>= next) ledger := by
  intro coordinator behind
  obtain ⟨middle, behind', ended⟩ := led coordinator behind
  rw [Coordinator.run_bind]
  -- A failure of the first operation is the end of both.
  cases outcome : (coordinator.run name first).1 with
  | error cause =>
    rw [outcome] at ended
    exact ⟨middle, behind', ended⟩
  | ok result =>
    rw [outcome] at ended
    exact ended _ behind'

/-- The failure of an operation that is tried is a result. -/
theorem leads_tried {tried : Operation α} {ends : Except StoreError (Except StoreError α) → Ledger → Prop}
    (led : Leads name mayFail (fun outcome => ends (.ok outcome)) tried ledger) :
    Leads name mayFail ends (ExceptT.lift tried.run) ledger := by
  -- What is run is the operation itself.
  intro coordinator behind
  obtain ⟨after, behind', ended⟩ := led coordinator behind
  rw [Coordinator.run_tried]
  exact ⟨after, behind', ended⟩

/-- Whoever asks for an identifier is given the next one. -/
theorem leads_freshId {ends : Except StoreError String → Ledger → Prop}
    (given : ends (.ok (name ledger.minted)) { ledger with minted := ledger.minted + 1 }) :
    Leads name mayFail ends freshId ledger := by
  intro coordinator behind
  -- Only the count of the identifiers changes, which the store knows nothing of.
  refine ⟨{ ledger with minted := ledger.minted + 1 },
    ⟨behind.kept, behind.others, congrArg (· + 1) behind.minted, behind.outages⟩, ?_⟩
  rw [← behind.minted] at given ⊢
  exact given

/-- A call fails without effect, if it may, or the store performs it. -/
theorem leads_call {asked : StoreCall} {ends : Except StoreError asked.Result → Ledger → Prop}
    (own : asked.collection = rules ∨ asked.collection = links)
    (performed : ∀ store, ledger.toBook.Kept store → ∃ after : Book, after.Kept (store.perform asked).2 ∧
      ends (store.perform asked).1 { ledger with toBook := after })
    (fails : mayFail → ∀ reason, ends (.error (.backend reason)) ledger) :
    Leads name mayFail ends (call asked) ledger := by
  intro coordinator behind
  have once : coordinator.run name (call asked) = coordinator.perform asked := rfl
  have left := @Outage.ne_nil_of_strike asked.method coordinator.outages
  rw [once]
  unfold Coordinator.perform
  generalize Outage.strike asked.method coordinator.outages = struck at left
  obtain ⟨_ | reason, outages⟩ := struck
  · -- What the store does in one of the two collections leaves all others empty.
    obtain ⟨after, kept, ended⟩ := performed coordinator.store behind.kept
    refine ⟨{ ledger with toBook := after }, ⟨kept, fun collection noRules noLinks => ?_, behind.minted,
      fun some_left => behind.outages (left (.inr some_left))⟩, ended⟩
    rw [← behind.others collection noRules noLinks]
    refine Store.documents_perform_of_ne (fun same => ?_) coordinator.store
    exact own.elim (fun ruled => noRules (same.trans ruled)) fun linked => noLinks (same.trans linked)
  · -- A call that fails never comes to the store.
    exact ⟨ledger, ⟨behind.kept, behind.others, behind.minted,
      fun some_left => behind.outages (left (.inr some_left))⟩,
      fails (behind.outages (left (.inl (by simp)))) reason⟩

/-- Documents that read back are read. -/
theorem leads_decode {read? : Json → Option α} {documents : List Json} {values : List α}
    {ends : Except StoreError (List α) → Ledger → Prop} (readable : documents.mapM read? = some values)
    (ended : ends (.ok values) ledger) : Leads name mayFail ends (decode read? documents) ledger := by
  simp only [decode, readable]
  exact leads_pure ended

end Operation

section Calls

open Operation

variable {name : Nat → String} {mayFail : Prop} {ledger : Ledger} {now : Int} {filter : Filter} {page : Page}
  {set : Fields} {β : Type} {ends : Except StoreError β → Ledger → Prop}

/-- An operation that reads links goes on with those that its filter chooses, inside the window. -/
theorem leads_readLinks (dated : ∀ link ∈ ledger.links, Record.IsTime link.updated)
    {next : List Link → Operation β}
    (goes : Leads name mayFail ends
      (next (page.window (ledger.links.filter fun link => Store.chosen filter link.members))) ledger)
    (fails : mayFail → ∀ reason, ends (.error (.backend reason)) ledger) :
    Leads name mayFail ends
      (do
        let documents ← call (.find links filter page)
        next (← decode (Link.ofJson? now) documents)) ledger := by
  refine leads_bind (leads_call (.inr rfl) (fun store kept => ⟨ledger.toBook, kept, ?_⟩) fails)
  -- What is found are documents of links of the ledger, which read back.
  have readable : (store.find links filter page).mapM (Link.ofJson? now) =
      some (page.window (ledger.links.filter fun link => Store.chosen filter link.members)) := by
    rw [kept.findLinks]
    refine mapM_of_readable fun link shown => Link.ofJson?_members (dated link ?_) now
    exact List.mem_of_mem_filter (Page.mem_of_mem_window shown)
  exact leads_bind (leads_decode readable goes)

/-- An operation that reads rules goes on with those that its filter chooses, inside the window. -/
theorem leads_readRules (usable : ∀ rule ∈ ledger.rules, rule.Fits ∧ rule.missing = [])
    {next : List Rule → Operation β}
    (goes : Leads name mayFail ends
      (next (page.window (ledger.rules.filter fun rule => Store.chosen filter rule.members))) ledger)
    (fails : mayFail → ∀ reason, ends (.error (.backend reason)) ledger) :
    Leads name mayFail ends
      (do
        let documents ← call (.find rules filter page)
        next (← decode (Rule.ofJson? now) documents)) ledger := by
  -- All rules of the ledger are readable, and so are those that are shown.
  refine leads_bind (leads_call (.inl rfl) (fun store kept => ⟨ledger.toBook, kept, ?_⟩) fails)
  have readable : (store.find rules filter page).mapM (Rule.ofJson? now) =
      some (page.window (ledger.rules.filter fun rule => Store.chosen filter rule.members)) := by
    rw [kept.findRules]
    refine mapM_of_readable fun rule shown => Rule.ofJson?_members (usable rule ?_).1 now
    exact List.mem_of_mem_filter (Page.mem_of_mem_window shown)
  exact leads_bind (leads_decode readable goes)

/-- A listing of links shows those that its filter chooses, inside the window. -/
theorem leads_listLinks (dated : ∀ link ∈ ledger.links, Record.IsTime link.updated)
    {ends : Except StoreError (List Link) → Ledger → Prop}
    (shown : ends (.ok (page.window (ledger.links.filter fun link => Store.chosen filter link.members))) ledger)
    (fails : mayFail → ∀ reason, ends (.error (.backend reason)) ledger) :
    Leads name mayFail ends (do decode (Link.ofJson? now) (← call (.find links filter page))) ledger := by
  -- A listing goes on with nothing but its result.
  have read : Leads name mayFail ends
      (call (.find links filter page) >>= fun documents =>
        decode (Link.ofJson? now) documents >>= pure) ledger :=
    leads_readLinks dated (leads_pure shown) fails
  simpa only [bind_pure] using read

/-- A listing of rules shows those that its filter chooses, inside the window. -/
theorem leads_listRules (usable : ∀ rule ∈ ledger.rules, rule.Fits ∧ rule.missing = [])
    {ends : Except StoreError (List Rule) → Ledger → Prop}
    (shown : ends (.ok (page.window (ledger.rules.filter fun rule => Store.chosen filter rule.members))) ledger)
    (fails : mayFail → ∀ reason, ends (.error (.backend reason)) ledger) :
    Leads name mayFail ends (do decode (Rule.ofJson? now) (← call (.find rules filter page))) ledger := by
  -- To list is to read and to do nothing more.
  have read : Leads name mayFail ends
      (call (.find rules filter page) >>= fun documents =>
        decode (Rule.ofJson? now) documents >>= pure) ledger :=
    leads_readRules usable (leads_pure shown) fails
  simpa only [bind_pure] using read

/-- A rule is found by its identifier, or there is none. -/
theorem leads_getRule (valid : ledger.Valid) {id : String} {ends : Except StoreError Rule → Ledger → Prop}
    (found : ∀ rule ∈ ledger.rules, rule.id = id → ends (.ok rule) ledger)
    (missing : (∀ rule ∈ ledger.rules, rule.id ≠ id) → ends (.error (.notFound ("rule " ++ id))) ledger)
    (fails : mayFail → ∀ reason, ends (.error (.backend reason)) ledger) :
    Leads name mayFail ends (getRule now id) ledger := by
  unfold getRule
  refine leads_readRules valid.usable ?_ fails
  have named (rule : Rule) (shown : rule ∈ ledger.rules.filter fun rule =>
      Store.chosen [Filter.isText "id" id] rule.members) : rule ∈ ledger.rules ∧ rule.id = id := by
    obtain ⟨among, chosen⟩ := List.mem_filter.mp shown
    exact ⟨among, (rule.chosen_id id).mp chosen⟩
  -- The window shows the first rule of the name, if there is any.
  cases shown : ledger.rules.filter fun rule => Store.chosen [Filter.isText "id" id] rule.members with
  | nil =>
    rw [List.filter_eq_nil_iff] at shown
    exact leads_throw (missing fun rule among same => shown rule among ((rule.chosen_id id).mpr same))
  | cons rule rest =>
    obtain ⟨among, same⟩ := named rule (by simp [shown])
    exact leads_pure (found rule among same)

/-- An update of links changes those that its filter sees, and counts them. -/
theorem leads_updateLinks {applies : Link → Prop} [DecidablePred applies] {change : Link → Link}
    {ends : Except StoreError Nat → Ledger → Prop}
    (sees : ∀ link, Store.chosen filter link.members = true ↔ applies link)
    (changes : ∀ link, link.members.extend set = (change link).members)
    (goes : ends (.ok (ledger.links.countP applies))
      { ledger with links := changeLinks applies change ledger.links })
    (fails : mayFail → ∀ reason, ends (.error (.backend reason)) ledger) :
    Leads name mayFail ends (call (.updateMany links filter set)) ledger := by
  refine leads_call (.inr rfl) (fun store kept => ⟨_, kept.updateLinks sees changes, ?_⟩) fails
  -- The count is that of the call when nothing disturbs it.
  have counted := congrArg Prod.fst (@Book.Kept.run_updateLinks name ledger.toBook store 0 kept filter set _ _ sees)
  rw [Coordinator.run_call] at counted
  exact counted ▸ goes

/-- An update of rules changes those that its filter sees. -/
theorem leads_updateRules {applies : Rule → Prop} [DecidablePred applies] {change : Rule → Rule}
    {ends : Except StoreError Nat → Ledger → Prop}
    (sees : ∀ rule, Store.chosen filter rule.members = true ↔ applies rule)
    (changes : ∀ rule, rule.members.extend set = (change rule).members)
    (goes : ∀ count, ends (.ok count) { ledger with rules := changeRules applies change ledger.rules })
    (fails : mayFail → ∀ reason, ends (.error (.backend reason)) ledger) :
    Leads name mayFail ends (call (.updateMany rules filter set)) ledger :=
  leads_call (.inl rfl) (fun _ kept => ⟨_, kept.updateRules sees changes, goes _⟩) fails

/-- The documents of new links come in behind the others. -/
theorem leads_insertLinks {added : List Link} {ends : Except StoreError Unit → Ledger → Prop}
    (goes : ends (.ok ()) { ledger with links := ledger.links ++ added })
    (fails : mayFail → ∀ reason, ends (.error (.backend reason)) ledger) :
    Leads name mayFail ends (call (.insertMany links (added.map Link.toJson))) ledger := by
  refine leads_call (.inr rfl) (fun store kept => ?_) fails
  -- The store refuses neither the documents of links nor that of a rule below.
  obtain ⟨after, inserted, kept'⟩ := kept.insertLinks added
  refine ⟨{ ledger.toBook with links := ledger.links ++ added }, ?_, ?_⟩
  · simpa only [Store.perform, inserted] using kept'
  · simpa only [Store.perform, inserted] using goes

/-- A rule takes the place of the one with its name, or comes in behind the others. -/
theorem leads_upsertRule {rule : Rule} {ends : Except StoreError Unit → Ledger → Prop}
    (goes : ends (.ok ()) { ledger with rules := putRule rule ledger.rules })
    (fails : mayFail → ∀ reason, ends (.error (.backend reason)) ledger) :
    Leads name mayFail ends (call (.upsertOne rules [Filter.isText "id" rule.id] rule.toJson)) ledger := by
  -- The document of the rule is put among those of the ledger.
  refine leads_call (.inl rfl) (fun store kept => ?_) fails
  obtain ⟨after, upserted, kept'⟩ := kept.upsertRule rule
  refine ⟨{ ledger.toBook with rules := putRule rule ledger.rules }, ?_, ?_⟩
  · simpa only [Store.perform, upserted] using kept'
  · simpa only [Store.perform, upserted] using goes

/-- New links take the next identifiers, one for each address. -/
theorem leads_freshLinks {ruleId : String} {urls : List String}
    {ends : Except StoreError (List Json) → Ledger → Prop}
    (goes : ends (.ok ((freshLinks name now ruleId ledger.minted urls).map Link.toJson))
      { ledger with minted := ledger.minted + urls.length }) :
    Leads name mayFail ends (newLinks now ruleId urls) ledger := by
  -- Each address takes one identifier, before those behind it take theirs.
  induction urls generalizing ledger ends with
  | nil => exact leads_pure goes
  | cons url rest ih =>
    refine leads_bind (leads_freshId (leads_bind (ih (leads_pure ?_))))
    -- The new link stands in front of those for the other addresses.
    simpa [freshLinks, Nat.add_assoc, Nat.add_comm, Nat.add_left_comm] using goes

/-- New links are active, of the rule, and one for each address; only identifiers are taken for them. -/
theorem leads_newLinks {ruleId : String} {urls : List String} {ends : Except StoreError (List Json) → Ledger → Prop}
    (goes : ∀ added : List Link, added.map Link.url = urls →
      (∀ link ∈ added, link.ruleId = ruleId ∧ link.status = .active) →
      ends (.ok (added.map Link.toJson)) { ledger with minted := ledger.minted + urls.length }) :
    Leads name mayFail ends (newLinks now ruleId urls) ledger :=
  leads_freshLinks (goes _ (map_url_freshLinks ..) fun _ among =>
    ⟨(waiting_of_mem_freshLinks among).1, (waiting_of_mem_freshLinks among).2.1⟩)

end Calls

end Lease

end Harvest

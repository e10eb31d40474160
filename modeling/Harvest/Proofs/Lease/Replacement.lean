import Harvest.Proofs.Lease.Series

/-! What storing a rule does: it takes the place of the rule with its identifier, or comes in behind the others, and
nothing else changes. A rule with a field missing is refused. -/

namespace Harvest.Lease

/-- How a rule comes among others: it takes the place of the one with its identifier and keeps the time of the last
generation if it tells none itself, or it comes in behind the others. What is kept there is `kept`. -/
inductive PutAmong (stored : Rule) : (before : List Rule) → (kept : Rule) → (after : List Rule) → Prop
  | replaces {front back : List Rule} {old : Rule} (same : old.id = stored.id)
      (others : ∀ rule ∈ front ++ back, rule.id ≠ stored.id) :
      PutAmong stored (front ++ old :: back) { stored with generated := stored.generated <|> old.generated }
        (front ++ { stored with generated := stored.generated <|> old.generated } :: back)
  | appends {before : List Rule} (absent : ∀ rule ∈ before, rule.id ≠ stored.id) :
      PutAmong stored before stored (before ++ [stored])

/-- Putting a rule among others with distinct identifiers changes none but the one with its own. -/
theorem putRule_putAmong (rule : Rule) {rules : List Rule} (unique : (rules.map Rule.id).Nodup) :
    ∃ kept, PutAmong rule rules kept (putRule rule rules) := by
  induction rules with
  | nil => exact ⟨rule, .appends (by simp)⟩
  | cons first rest ih =>
    obtain ⟨new, unique⟩ := List.nodup_cons.mp unique
    by_cases same : first.id = rule.id
    · -- The identifier of the first rule is not repeated behind it.
      have others : ∀ other ∈ [] ++ rest, other.id ≠ rule.id := fun other among equal =>
        new (same.trans equal.symm ▸ List.mem_map_of_mem among)
      rw [putRule, if_pos same]
      exact ⟨_, .replaces same others⟩
    · obtain ⟨kept, put⟩ := ih unique
      rw [putRule, if_neg same]
      refine ⟨kept, ?_⟩
      generalize putRule rule rest = after at put ⊢
      cases put with
      | @replaces front back old own others =>
        exact @PutAmong.replaces rule (first :: front) back old own (List.forall_mem_cons.mpr ⟨same, others⟩)
      | appends absent => exact .appends (List.forall_mem_cons.mpr ⟨same, absent⟩)

/-- A rule that is put among others is there as it is kept, under its identifier. -/
theorem PutAmong.kept_mem {stored kept : Rule} {before after : List Rule} (put : PutAmong stored before kept after) :
    kept ∈ after ∧ kept.id = stored.id := by
  -- It stands where the old one stood, or at the end.
  cases put with
  | replaces => exact ⟨by simp, rfl⟩
  | appends => exact ⟨by simp, rfl⟩

/-- What is kept of a rule tells a time of the last generation if the rule does. -/
theorem PutAmong.kept_eq {stored kept : Rule} {before after : List Rule} (put : PutAmong stored before kept after) :
    kept = { stored with generated := stored.generated <|> kept.generated } := by
  -- A time that the rule does not tell is taken from the one that it replaces.
  cases put with
  | replaces => cases stored.generated <;> rfl
  | appends => cases told : stored.generated <;> simp [← told]

/-- A rule whose identifier is among the others replaces what stands there. -/
theorem putRule_eq_map {rule : Rule} {rules : List Rule} (unique : (rules.map Rule.id).Nodup)
    (known : rule.id ∈ rules.map Rule.id) :
    putRule rule rules = rules.map fun other => if other.id = rule.id then rule.replacing other else other := by
  -- By the rules, of which no other has the identifier of the one that is replaced.
  induction rules with
  | nil => cases known
  | cons first rest ih =>
    obtain ⟨new, unique⟩ := List.nodup_cons.mp unique
    by_cases same : first.id = rule.id
    · have others (other : Rule) (among : other ∈ rest) : other.id ≠ rule.id := fun equal =>
        new (same.trans equal.symm ▸ List.mem_map_of_mem among)
      rw [putRule, if_pos same, List.map_cons, if_pos same]
      congr 1
      rw [List.map_congr_left fun other among => if_neg (others other among), List.map_id']
    · have later : rule.id ∈ rest.map Rule.id := (List.mem_cons.mp known).resolve_left (Ne.symm same)
      rw [putRule, if_neg same, List.map_cons, if_neg same, ih unique later]

/-- Putting a rule among others a second time changes the time of what is kept, and nothing else. -/
theorem PutAmong.again {stored kept : Rule} {before after : List Rule} (put : PutAmong stored before kept after)
    (unique : (after.map Rule.id).Nodup) (later : Int) :
    putRule { stored with updated := later } after =
      after.map fun rule => if rule.id = stored.id then { rule with updated := later } else rule := by
  obtain ⟨among, own⟩ := put.kept_mem
  rw [putRule_eq_map unique (own ▸ List.mem_map_of_mem among)]
  refine List.map_congr_left fun rule other => ?_
  by_cases same : rule.id = stored.id
  · -- There is no other rule of the identifier.
    obtain rfl := List.inj_on_of_nodup_map unique other among (same.trans own.symm)
    rw [if_pos same, if_pos same, put.kept_eq]
    cases stored.generated <;> rfl
  · rw [if_neg same, if_neg same]

/-- What a coordinator is after a rule was stored that is given back as `stored`, and kept as `kept` among the
`rules`. -/
structure Coordinator.Replaced (name : Nat → String) (before after : Coordinator) (book : Book) (now : Int)
    (given stored kept : Rule) (rules : List Rule) : Prop where
  /-- The rule has another time, and an identifier if it had none. -/
  own : stored = { given with id := storedId name before.minted given, updated := now }
  complete : stored.id ≠ "" ∧ stored.pattern ≠ "" ∧ stored.target ≠ ""
  put : PutAmong stored book.rules kept rules
  documents : after.store.documents Lease.rules = rules.map Rule.members
  elsewhere : ∀ collection, collection ≠ Lease.rules →
    after.store.documents collection = before.store.documents collection
  /-- What is kept is found. -/
  found : ∀ later : Instant, (after.attempt name [] (getRule later stored.id)).1 = .ok kept
  /-- Stored once more, the rule has another time, and so has what is kept. -/
  again : ∀ later : Instant,
    (after.attempt name [] (upsertRule later stored)).1 = .ok { stored with updated := later } ∧
    (after.attempt name [] (upsertRule later stored)).2.store.documents Lease.rules =
      (rules.map fun rule => if rule.id = stored.id then { rule with updated := later.1 } else rule).map
        Rule.members ∧
    ∀ collection, collection ≠ Lease.rules →
      (after.attempt name [] (upsertRule later stored)).2.store.documents collection =
        after.store.documents collection

/-- How storing a rule ends, if `book` stands behind the documents before. -/
inductive Coordinator.Stores (name : Nat → String) (before : Coordinator) (book : Book) (outages : List Outage)
    (now : Int) (given : Rule) : Except StoreError Rule → Coordinator → Prop
  | stores {after : Coordinator} {stored kept : Rule} {rules : List Rule}
      (replaced : Replaced name before after book now given stored kept rules) :
      Stores name before book outages now given (.ok stored) after
  /-- A rule with a field missing is refused. -/
  | refuses {after : Coordinator}
      (incomplete : storedId name before.minted given = "" ∨ given.pattern = "" ∨ given.target = "")
      (unchanged : ∀ collection, after.store.documents collection = before.store.documents collection) :
      Stores name before book outages now given (.error (.invalidInput ("rule is missing required fields: " ++
        Text.join ", " (storedRule name before.minted now given).missing))) after
  /-- Nothing else goes wrong, unless a call is bound to fail. -/
  | fails {after : Coordinator} {reason : String} (bound : outages ≠ [])
      (unchanged : ∀ collection, after.store.documents collection = before.store.documents collection) :
      Stores name before book outages now given (.error (.backend reason)) after

/-- A rule without its identifier, pattern or target has a field missing. -/
theorem unnamed_of_missing {rule : Rule} (incomplete : rule.missing ≠ []) :
    rule.id = "" ∨ rule.pattern = "" ∨ rule.target = "" := by
  -- With all three of them nothing is missing.
  by_contra named
  push Not at named
  exact incomplete (by simp [Rule.missing, named])

/-- Where only the rules differ, no other collection does. -/
theorem Ledger.Behind.documents_eq_of_links {ledger other : Ledger} {mayFail mayFail' : Prop}
    {coordinator later : Coordinator} (behind : ledger.Behind mayFail coordinator)
    (behind' : other.Behind mayFail' later) (same : other.links = ledger.links) {collection : String}
    (noRules : collection ≠ rules) :
    later.store.documents collection = coordinator.store.documents collection := by
  -- By the collection: links, or one that no coordinator touches.
  by_cases linked : collection = links
  · rw [linked, behind.kept.links, behind'.kept.links, same]
  · rw [behind.others collection noRules linked, behind'.others collection noRules linked]

namespace Ledger.Reached

variable {name : Nat → String} {ledger after : Ledger} {before coordinator : Coordinator}

/-- A rule that was put into the ledger is found and can be stored once more. -/
theorem replaced (reached : ledger.Reached name before) (reached' : after.Reached name coordinator) (now : Int)
    (given : Rule) (complete : (storedRule name ledger.minted now given).missing = [])
    (book : after.toBook = ⟨putRule (storedRule name ledger.minted now given) ledger.rules, ledger.links⟩) :
    ∃ kept rules, before.Replaced name coordinator ledger.toBook now given
      (storedRule name ledger.minted now given) kept rules := by
  obtain ⟨rulesNow, linksNow⟩ := Book.mk.inj book
  generalize same : storedRule name ledger.minted now given = stored at complete rulesNow ⊢
  obtain ⟨kept, put⟩ := putRule_putAmong stored reached.valid.ruleIds
  rw [← rulesNow] at put
  obtain ⟨among, own⟩ := put.kept_mem
  have named := Rule.named_of_missing complete
  refine ⟨kept, after.rules, {
    own := by rw [← same, reached.behind.minted]; rfl
    complete := named
    put := put
    documents := reached'.behind.kept.rules
    elsewhere := fun collection noRules => reached.behind.documents_eq_of_links reached'.behind linksNow noRules
    found := fun later => ?_
    again := fun later => ?_ }⟩
  -- No other rule has the identifier, so that the one that is found is the one that was put in.
  · have led : Operation.Leads name (([] : List Outage) ≠ []) (fun outcome _ => outcome = .ok kept)
        (getRule later stored.id) after :=
      leads_getRule reached'.valid
        (fun rule stands equal => congrArg Except.ok
          (List.inj_on_of_nodup_map reached'.valid.ruleIds stands among (equal.trans own.symm)))
        (fun absent => absurd own (absent kept among)) fun may => absurd rfl may
    obtain ⟨-, -, got⟩ := led _ (reached'.armed [])
    exact got
  · obtain ⟨last, behind, upserts⟩ := @upsertRule_upserts name (([] : List Outage) ≠ []) after later stored _
      (reached'.armed [])
    -- The rule has its identifier by now, and still no field is missing.
    have renewed : storedRule name after.minted later stored = { stored with updated := later.1 } := by
      rw [storedRule, storedId, if_neg named.1]
    unfold Coordinator.attempt
    generalize Coordinator.run name { coordinator with outages := [] } (upsertRule later stored) = ended
      at behind upserts ⊢
    obtain ⟨outcome, final⟩ := ended
    cases upserts with
    | stores _ bookThen =>
      obtain ⟨rulesThen, linksThen⟩ := Book.mk.inj bookThen
      rw [renewed, put.again reached'.valid.ruleIds] at rulesThen
      refine ⟨congrArg Except.ok renewed, ?_, fun collection noRules =>
        reached'.behind.documents_eq_of_links behind linksThen noRules⟩
      rw [behind.kept.rules, rulesThen]
    | refuses incomplete _ =>
      rw [renewed] at incomplete
      exact absurd complete incomplete
    | fails may _ => exact absurd rfl may

/-- Storing a rule ends in one of these ways, in every state that is reached. -/
theorem stores (injective : Function.Injective name) (reached : ledger.Reached name before) (outages : List Outage)
    (now : Instant) {given : Rule} (fits : given.Fits) :
    before.Stores name ledger.toBook outages now given (before.attempt name outages (upsertRule now given)).1
      (before.attempt name outages (upsertRule now given)).2 := by
  -- The operation has three ends, each of which is one of those that are told.
  have led : Operation.Leads name (outages ≠ []) (ledger.Upserts name (outages ≠ []) now given)
      ((Request.upsertRule given fits).operation now) ledger := upsertRule_upserts given
  obtain ⟨after, reached', upserts⟩ := reached.attempt injective led
  change after.Reached name (before.attempt name outages (upsertRule now given)).2 at reached'
  change ledger.Upserts name _ now given (before.attempt name outages (upsertRule now given)).1 after at upserts
  generalize before.attempt name outages (upsertRule now given) = ended at reached' upserts ⊢
  obtain ⟨outcome, coordinator⟩ := ended
  cases upserts with
  | stores complete book =>
    obtain ⟨kept, rules, replaced⟩ := reached.replaced reached' now given complete book
    exact .stores replaced
  | refuses incomplete book =>
    rw [← reached.behind.minted] at incomplete ⊢
    exact .refuses (unnamed_of_missing incomplete) (reached.behind.documents_eq reached'.behind book)
  | fails may book => exact .fails may (reached.behind.documents_eq reached'.behind book)

end Ledger.Reached

namespace System

/-- In every state that operations can leave behind, storing a rule replaces the rule with its identifier, or adds
one, and nothing else; a rule that is refused changes nothing. -/
theorem upsert_replaces {name : Nat → String} (injective : Function.Injective name) (actions : List Action) :
    ∃ book : Book, book.Kept (after name actions).coordinator.store ∧ (book.rules.map Rule.id).Nodup ∧
      ∀ (outages : List Outage) (now : Instant) (given : Rule), given.Fits →
        (after name actions).coordinator.Stores name book outages now given
          ((after name actions).coordinator.attempt name outages (upsertRule now given)).1
          ((after name actions).coordinator.attempt name outages (upsertRule now given)).2 := by
  -- The book is that of the ledger that is reached.
  obtain ⟨ledger, reached⟩ := Ledger.Reached.exists_of_after injective actions
  exact ⟨ledger.toBook, reached.behind.kept, reached.valid.ruleIds,
    fun outages now given fits => reached.stores injective outages now fits⟩

/-- On the sample day the changed rule takes the place of the rule that it was made from, and keeps the time at which
the link of that one was generated. Without a target it is refused. -/
theorem upsert_replaces_sampleDay :
    ((after Supply.strokes (sampleDay.take 12)).coordinator.attempt Supply.strokes []
        (upsertRule noon changedRule)).1 = .ok { changedRule with updated := noon } ∧
    ((after Supply.strokes (sampleDay.take 12)).coordinator.attempt Supply.strokes []
        (upsertRule noon changedRule)).2.store.documents rules =
      [Rule.members { changedRule with updated := noon, generated := some 0 }] ∧
    ((after Supply.strokes (sampleDay.take 12)).coordinator.attempt Supply.strokes []
        (upsertRule noon { changedRule with target := "" })).1 =
      .error (.invalidInput "rule is missing required fields: targetLocation") ∧
    ∃ book : Book, book.Kept (after Supply.strokes (sampleDay.take 12)).coordinator.store ∧
      (book.rules.map Rule.id).Nodup ∧
      ∀ (outages : List Outage) (now : Instant) (given : Rule), given.Fits →
        (after Supply.strokes (sampleDay.take 12)).coordinator.Stores Supply.strokes book outages now given
          ((after Supply.strokes (sampleDay.take 12)).coordinator.attempt Supply.strokes outages
            (upsertRule now given)).1
          ((after Supply.strokes (sampleDay.take 12)).coordinator.attempt Supply.strokes outages
            (upsertRule now given)).2 :=
  ⟨by rfl, by rfl, by rfl, upsert_replaces Supply.strokes_injective (sampleDay.take 12)⟩

end System

end Harvest.Lease

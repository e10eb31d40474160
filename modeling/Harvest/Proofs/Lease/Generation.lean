import Harvest.Proofs.Lease.Distinct
import Harvest.Proofs.Number.Decimal

/-! What generating links does: the links of a rule that are not completed are cancelled, and new ones come in, one
for each page. A rule that gets none is refused before anything is written. -/

namespace Harvest

namespace Rule

/-- The pieces are those of the link pattern between its placeholders. -/
structure CutInto (rule : Rule) (pieces : List String) : Prop where
  whole : Text.join placeholder pieces = rule.linkPattern
  free : ∀ piece ∈ pieces, Text.contains placeholder piece = false

/-- The address of a page has its number between the pieces of the link pattern. -/
theorem exists_cutInto (rule : Rule) :
    ∃ pieces, rule.CutInto pieces ∧ ∀ page, rule.pageUrl page = Text.join (toString page) pieces := by
  -- The pieces are what replacing the placeholder leaves as it is.
  have visible : placeholder.toList ≠ [] := by simp [placeholder]
  obtain ⟨pieces, whole, free, joined⟩ := Text.exists_pieces visible rule.linkPattern
  exact ⟨pieces, ⟨whole, free⟩, fun page => joined (toString page)⟩

/-- The address of a page has no placeholder. -/
theorem not_contains_pageUrl (rule : Rule) (page : Nat) :
    Text.contains placeholder (rule.pageUrl page) = false := by
  obtain ⟨pieces, cut, joined⟩ := rule.exists_cutInto
  have letters : ∀ c ∈ placeholder.toList, c.isDigit = false := by simp [placeholder]
  rw [joined]
  refine Text.not_contains_join (by simp [placeholder]) ?_ (fun c among shared => ?_) cut.free
  · rw [Decimal.toList_toString]
    exact Decimal.digits_ne_nil page
  · -- A number consists of digits, and the placeholder has none.
    rw [Decimal.toList_toString] at among
    have digit : c.isDigit = true := Decimal.isDigit_of_mem_digits among
    exact Bool.false_ne_true ((letters c shared).symm.trans digit)

/-- The links are new ones for the pages of a rule. -/
structure HasPages (rule : Rule) (now : Int) (added : List Link) : Prop where
  /-- In the order of the pages, each address has the number in place of every placeholder. -/
  addresses : ∃ pieces, rule.CutInto pieces ∧
    added.map Link.url = (List.range' 1 rule.totalPages).map fun page => Text.join (toString page) pieces
  distinct : (added.map Link.url).Nodup
  filled : ∀ link ∈ added, Text.contains placeholder link.url = false
  waiting : ∀ link ∈ added, link.ruleId = rule.id ∧ link.status = .active ∧ link.worker = "" ∧ link.updated = now

/-- Fresh links for the addresses of its pages are new links for the pages of a rule. -/
theorem hasPages_freshLinks {rule : Rule} {urls : List String} (pages : rule.pageUrls = .ok urls)
    (name : Nat → String) (now : Int) (minted : Nat) :
    rule.HasPages now (Lease.freshLinks name now rule.id minted urls) := by
  -- The addresses are those of the pages in turn, from the first to the last.
  have counted : urls = (List.range' 1 rule.totalPages).map rule.pageUrl := by
    unfold pageUrls at pages
    split at pages
    · rw [← Except.ok.inj pages, List.range'_eq_map_range, List.map_map]
      exact List.map_congr_left fun index _ => by rw [Function.comp_apply, Nat.add_comm]
    · cases pages
  obtain ⟨pieces, cut, joined⟩ := rule.exists_cutInto
  refine ⟨⟨pieces, cut, ?_⟩, ?_, fun link among => ?_, fun link among => Lease.waiting_of_mem_freshLinks among⟩
  · rw [Lease.map_url_freshLinks, counted]
    exact List.map_congr_left fun page _ => joined page
  · rw [Lease.map_url_freshLinks]
    exact nodup_of_pageUrls pages
  · have address : link.url ∈ urls := Lease.map_url_freshLinks name now rule.id minted urls ▸ List.mem_map_of_mem among
    rw [counted] at address
    obtain ⟨page, -, same⟩ := List.mem_map.mp address
    rw [← same]
    exact rule.not_contains_pageUrl page

end Rule

namespace Lease

/-- The links after those of a rule that are not completed were cancelled. -/
def withdrawn (ruleId : String) (now : Int) (links : List Link) : List Link :=
  changeLinks (fun link => link.ruleId = ruleId ∧ link.status ≠ .completed)
    (fun link => link.restamped .cancelled "" now) links

/-- The rules after links of one of them were generated. -/
def dated (ruleId : String) (now : Int) (rules : List Rule) : List Rule :=
  changeRules (fun rule => rule.id = ruleId) (fun rule => { rule with generated := some now }) rules

/-- Why no links are generated for a rule: there is none of the name, it is cancelled, or its link pattern has no
placeholder. -/
inductive Book.Refuses (book : Book) (ruleId : String) : StoreError → Prop
  | unknown (absent : ∀ rule ∈ book.rules, rule.id ≠ ruleId) : Refuses book ruleId (.notFound ("rule " ++ ruleId))
  | cancelled {rule : Rule} (stored : rule ∈ book.rules) (same : rule.id = ruleId) (unused : rule.status = .cancelled) :
      Refuses book ruleId (.invalidInput ("rule " ++ ruleId ++ " is cancelled"))
  | unplaced {rule : Rule} (stored : rule ∈ book.rules) (same : rule.id = ruleId)
      (unplaced : Text.contains Rule.placeholder rule.linkPattern = false) :
      Refuses book ruleId (.invalidInput
        ("link pattern of rule " ++ ruleId ++ " has no " ++ Rule.placeholder ++ " placeholder"))

/-- The outcome of a generation that nothing disturbs, and the ledger that it leaves: the old links of the rule are
withdrawn, and a new one comes in for each address. -/
def Ledger.Regenerated (name : Nat → String) (ledger : Ledger) (now : Int) (ruleId : String) (urls : List String)
    (outcome : Except StoreError Nat) (after : Ledger) : Prop :=
  outcome = .ok urls.length ∧ after.toBook = ⟨dated ruleId now ledger.rules,
    withdrawn ruleId now ledger.links ++ freshLinks name now ruleId ledger.minted urls⟩

section Requests

open Operation

variable {name : Nat → String} {mayFail : Prop} {ledger : Ledger}

/-- The links of a rule in use are replaced by new ones for its pages. -/
theorem generateLinks_replaces (never : ¬mayFail) (valid : ledger.Valid) {rule : Rule} (stored : rule ∈ ledger.rules)
    (inUse : rule.status = .active) {urls : List String} (pages : rule.pageUrls = .ok urls) (now : Instant) :
    Leads name mayFail (ledger.Regenerated name now rule.id urls) (generateLinks now rule.id) ledger := by
  refine leads_bind (leads_getRule valid (fun other among same => ?_) (fun absent => absurd rfl (absent rule stored))
    fun may => absurd may never)
  -- There is no other rule of the name.
  obtain rfl := List.inj_on_of_nodup_map valid.ruleIds among stored same
  have notCancelled : ¬other.status = .cancelled := by simp [inUse]
  simp only [Further, if_neg notCancelled, pages]
  refine leads_bind (leads_updateLinks (fun link => link.chosen_incomplete other.id)
    (fun link => link.members_extend_stamp ..) ?_ fun may => absurd may never)
  refine leads_bind (leads_freshLinks ?_)
  refine leads_bind (leads_insertLinks ?_ fun may => absurd may never)
  refine leads_bind (leads_updateRules (fun rule => rule.chosen_id other.id)
    (fun rule => rule.members_extend_generated now) (fun count => leads_pure ?_) fun may => absurd may never)
  refine ⟨?_, rfl⟩
  -- There are as many new links as addresses.
  conv_rhs => rw [← map_url_freshLinks name now other.id ledger.minted urls]
  simp

/-- A rule that gets no links is refused, and nothing is changed. -/
theorem generateLinks_refuses (never : ¬mayFail) (valid : ledger.Valid) (now : Instant) (ruleId : String)
    (unfit : ¬∃ rule ∈ ledger.rules, rule.id = ruleId ∧ rule.status = .active ∧
      Text.contains Rule.placeholder rule.linkPattern = true) :
    Leads name mayFail
      (fun outcome after => (∃ cause, outcome = .error cause ∧ ledger.Refuses ruleId cause) ∧ after = ledger)
      (generateLinks now ruleId) ledger := by
  refine leads_bind (leads_getRule valid (fun rule among same => ?_) (fun absent => ⟨⟨_, rfl, .unknown absent⟩, rfl⟩)
    fun may => absurd may never)
  cases status : rule.status with
  | cancelled =>
    rw [Further, if_pos status]
    exact leads_bind (leads_throw ⟨⟨_, rfl, .cancelled among same status⟩, rfl⟩)
  | active =>
    -- Nothing but the placeholder can be missing then.
    have unplaced : Text.contains Rule.placeholder rule.linkPattern = false :=
      Bool.eq_false_iff.mpr fun placed => unfit ⟨rule, among, same, status, placed⟩
    simp only [Further, status, Rule.pageUrls, unplaced]
    subst same
    exact leads_throw ⟨⟨_, rfl, .unplaced among rfl unplaced⟩, rfl⟩

end Requests

/-- What generating the links of a rule comes to, when no call fails. -/
structure Coordinator.Generates (name : Nat → String) (coordinator : Coordinator) (book : Book) : Prop where
  /-- A rule in use with a placeholder gets one new link for each page. Those that it had and that are not completed
  are cancelled, and no other document changes but its own, which is dated. -/
  replaces : ∀ (now : Instant) (rule : Rule), rule ∈ book.rules → rule.status = .active →
    Text.contains Rule.placeholder rule.linkPattern = true →
    (coordinator.attempt name [] (generateLinks now rule.id)).1 = .ok rule.totalPages ∧
    ∃ added : List Link, rule.HasPages now added ∧ ((book.links ++ added).map Link.id).Nodup ∧
      (⟨dated rule.id now book.rules, withdrawn rule.id now book.links ++ added⟩ : Book).Kept
        (coordinator.attempt name [] (generateLinks now rule.id)).2.store ∧
      ∀ collection, collection ≠ Lease.rules → collection ≠ Lease.links →
        (coordinator.attempt name [] (generateLinks now rule.id)).2.store.documents collection =
          coordinator.store.documents collection
  /-- In every other case the request is refused, and no document changes. -/
  refuses : ∀ (now : Instant) (ruleId : String),
    (¬∃ rule ∈ book.rules, rule.id = ruleId ∧ rule.status = .active ∧
      Text.contains Rule.placeholder rule.linkPattern = true) →
    (∃ cause, (coordinator.attempt name [] (generateLinks now ruleId)).1 = .error cause ∧ book.Refuses ruleId cause) ∧
    ∀ collection, (coordinator.attempt name [] (generateLinks now ruleId)).2.store.documents collection =
      coordinator.store.documents collection

/-- A reached coordinator generates links as its ledger says. -/
theorem Ledger.Reached.generates {name : Nat → String} {ledger : Ledger} {coordinator : Coordinator}
    (injective : Function.Injective name) (reached : ledger.Reached name coordinator) :
    coordinator.Generates name ledger.toBook where
  replaces now rule stored inUse placed := by
    have pages : rule.pageUrls = .ok ((List.range rule.totalPages).map fun index => rule.pageUrl (index + 1)) :=
      if_pos placed
    have led := @generateLinks_replaces name (([] : List Outage) ≠ []) ledger (by simp) reached.valid rule stored inUse
      _ pages now
    obtain ⟨after, reached', outcome, became⟩ :=
      @attempt name ledger coordinator injective reached now [] (.generateLinks rule.id) _ led
    rw [List.length_map, List.length_range] at outcome
    refine ⟨outcome, freshLinks name now rule.id ledger.minted _,
      Rule.hasPages_freshLinks pages name now ledger.minted, ?_, became ▸ reached'.behind.kept,
      fun collection noRules noLinks => ?_⟩
    · -- Links that are cancelled keep their identifiers.
      have unique := reached'.unique
      rw [congrArg Book.links became] at unique
      simpa only [List.map_append, withdrawn, map_id_changeLinks] using unique
    · rw [reached.behind.others collection noRules noLinks]
      exact reached'.behind.others collection noRules noLinks
  refuses now ruleId unfit := by
    have led := @generateLinks_refuses name (([] : List Outage) ≠ []) ledger (by simp) reached.valid now ruleId unfit
    obtain ⟨after, reached', refused, rfl⟩ :=
      @attempt name ledger coordinator injective reached now [] (.generateLinks ruleId) _ led
    exact ⟨refused, reached.behind.documents_eq reached'.behind rfl⟩

namespace System

/-- In every state that operations can leave behind, generating links replaces exactly the links of a rule that are
not completed by one for each of its pages, or refuses the rule and changes nothing. -/
theorem generation_exact {name : Nat → String} (injective : Function.Injective name) (actions : List Action) :
    ∃ book : Book, book.Kept (after name actions).coordinator.store ∧ (book.rules.map Rule.id).Nodup ∧
      (after name actions).coordinator.Generates name book := by
  obtain ⟨ledger, reached⟩ := Ledger.Reached.exists_of_after injective actions
  exact ⟨ledger.toBook, reached.behind.kept, reached.valid.ruleIds, reached.generates injective⟩

/-- On the sample day the leased link of the rule gives way to a new one, and no other rule is there. -/
theorem generation_exact_sampleDay :
    ((after Supply.strokes (sampleDay.take 12)).coordinator.attempt Supply.strokes [] (generateLinks noon "r")).1 =
      .ok 1 ∧
    ((after Supply.strokes (sampleDay.take 12)).coordinator.attempt Supply.strokes []
        (generateLinks noon "r")).2.store.documents links =
      [(sampleLink "w" 0).restamped .cancelled "" noon, { sampleLink "" noon with id := "|", status := .active }].map
        Link.members ∧
    ∃ book : Book, book.Kept (after Supply.strokes (sampleDay.take 12)).coordinator.store ∧
      (book.rules.map Rule.id).Nodup ∧
      (after Supply.strokes (sampleDay.take 12)).coordinator.Generates Supply.strokes book :=
  ⟨by rfl, by rfl, generation_exact Supply.strokes_injective (sampleDay.take 12)⟩

end System

end Lease

end Harvest

import Harvest.Proofs.Json.Names
import Harvest.Proofs.Lease.Attempt
import Harvest.Proofs.Lease.Terms

/-! Links that are closed, in any store, whatever documents it holds: no operation opens them again, unless it makes
new ones under their identifiers. -/

namespace Harvest

namespace Lease

/-- A link that changes hands has the new status, worker and time, and all other fields of its document as before. -/
structure Stamped (status : LinkStatus) (worker : String) (now : Int) (document after : Fields) : Prop where
  status : (Json.object after).field "status" = .string status.text
  worker : (Json.object after).field "worker" = .string worker
  updated : (Json.object after).field "lastUpdate" = .int now
  others : ∀ name, name ≠ "status" → name ≠ "worker" → name ≠ "lastUpdate" →
    (Json.object after).field name = (Json.object document).field name

/-- A stamp changes the fields that it names and no others. -/
theorem stamped_extend (status : LinkStatus) (worker : String) (now : Int) (document : Fields) :
    Stamped status worker now document (document.extend (stamp status worker now)) := by
  -- The three fields are put in one after the other, under different names.
  refine ⟨?_, ?_, ?_, fun name noStatus noWorker noTime => ?_⟩
  all_goals simp only [Json.field, Json.fields, Fields.extend, stamp, List.foldl_cons, List.foldl_nil]
  · rw [Fields.get?_insert_of_ne (by decide), Fields.get?_insert_of_ne (by decide), Fields.get?_insert_self]
    rfl
  · rw [Fields.get?_insert_of_ne (by decide), Fields.get?_insert_self]
    rfl
  · rw [Fields.get?_insert_self]
    rfl
  · rw [Fields.get?_insert_of_ne noTime, Fields.get?_insert_of_ne noWorker, Fields.get?_insert_of_ne noStatus]

/-- Is the document that of a link with one of the identifiers, active or leased? -/
def isOpenAmong (ids : List String) (document : Fields) : Bool :=
  match (Json.object document).field "id", (Json.object document).field "status" with
  | .string id, .string status =>
    ids.contains id && (status == LinkStatus.running.text || status == LinkStatus.active.text)
  | _, _ => false

/-- What makes a document that of an open link. -/
theorem isOpenAmong_iff {ids : List String} {document : Fields} :
    isOpenAmong ids document = true ↔
      (∃ id ∈ ids, (Json.object document).field "id" = .string id) ∧
      ((Json.object document).field "status" = .string LinkStatus.running.text ∨
        (Json.object document).field "status" = .string LinkStatus.active.text) := by
  -- Without a text in both fields a document is none of an open link.
  unfold isOpenAmong
  split
  · rename_i id status named told
    simp [named, told]
  · rename_i other
    refine iff_of_false (by simp) ?_
    rintro ⟨⟨id, -, named⟩, running | active⟩
    · exact other id _ named running
    · exact other id _ named active

/-- A text is the same value as itself only. -/
theorem same_string_iff {text : String} {value : Json} :
    (Json.string text).same value = true ↔ value = .string text := by
  -- By the form of the value.
  cases value with
  | string other => simp [Json.same, @eq_comm _ text]
  | _ => simp [Json.same]

/-- A document that is chosen has the texts that are asked for. -/
theorem field_of_chosen {filter : Filter} {name text : String} {document : Fields}
    (asked : Filter.isText name text ∈ filter) (chosen : Store.chosen filter document = true) :
    (Json.object document).field name = .string text := by
  -- A condition that holds compares the field with the text.
  have holds : ((Json.object document).field name).same (.string text) = true :=
    List.all_eq_true.mp chosen (Filter.isText name text) asked
  cases told : (Json.object document).field name with
  | string other => simpa [told, Json.same] using holds
  | _ => simp [told, Json.same] at holds

/-- A link that is closed is no open link, whatever identifiers are asked for. -/
theorem isOpenAmong_stamped {status : LinkStatus} (closed : status = .completed ∨ status = .cancelled)
    (ids : List String) (worker : String) (now : Int) (document : Fields) :
    isOpenAmong ids (document.extend (stamp status worker now)) = false := by
  -- The status that is stamped is neither of the two open ones.
  rw [Bool.eq_false_iff, Ne, isOpenAmong_iff, (stamped_extend status worker now document).status]
  rintro ⟨-, isOpen⟩
  rcases closed with rfl | rfl <;> simp [LinkStatus.text] at isOpen

/-- None of the identifiers is that of an open link. -/
def Settled (ids : List String) (store : Store) : Prop :=
  ∀ document ∈ store.documents links, isOpenAmong ids document = false

/-- Whatever the store is before the operation, it has the property afterwards if it had it before. -/
def Operation.Maintains (property : Store → Prop) (operation : Operation α) : Prop :=
  ∀ (name : Nat → String) (coordinator : Coordinator), property coordinator.store →
    property (coordinator.run name operation).2.store

namespace Operation

variable {property : Store → Prop}

/-- An operation that only gives a result leaves the store as it is. -/
theorem maintains_pure (result : α) : Maintains property (pure result : Operation α) :=
  fun _ _ holds => holds

/-- An operation that only fails leaves the store as it is. -/
theorem maintains_throw (cause : StoreError) : Maintains property (throw cause : Operation α) :=
  fun _ _ holds => holds

/-- Taking an identifier leaves the store as it is. -/
theorem maintains_freshId : Maintains property freshId :=
  fun _ _ holds => holds

/-- Reading documents that are at hand leaves the store as it is. -/
theorem maintains_decode {read? : Json → Option α} {documents : List Json} :
    Maintains property (decode read? documents) := by
  -- The documents can be read or not, and the store is not asked again.
  unfold decode
  split
  · exact maintains_pure _
  · exact maintains_throw _

/-- What two operations maintain, they maintain one after the other. -/
theorem maintains_bind {first : Operation α} {next : α → Operation β} (begins : Maintains property first)
    (onwards : ∀ result, Maintains property (next result)) : Maintains property (first >>= next) := by
  -- The second operation runs in the store that the first one leaves, or not at all.
  intro name coordinator holds
  rw [Coordinator.run_bind]
  cases (coordinator.run name first).1 with
  | ok result => exact onwards result name _ (begins name coordinator holds)
  | error cause => exact begins name coordinator holds

/-- After a failure nothing follows. -/
theorem maintains_throw_bind (cause : StoreError) (next : α → Operation β) :
    Maintains property ((throw cause : Operation α) >>= next) :=
  fun _ _ holds => holds

/-- An operation that is tried maintains what it maintains otherwise. -/
theorem maintains_tried {tried : Operation α} (maintained : Maintains property tried) :
    Maintains property (ExceptT.lift tried.run) := by
  intro name coordinator holds
  -- To keep the failure as a result changes nothing else.
  rw [Coordinator.run_tried]
  exact maintained name coordinator holds

/-- A call maintains what it maintains when the store performs it. -/
theorem maintains_call {asked : StoreCall} (performed : ∀ store, property store → property (store.perform asked).2) :
    Maintains property (call asked) := by
  -- A call that fails is not performed.
  intro name coordinator holds
  have once : coordinator.run name (call asked) = coordinator.perform asked := rfl
  rw [once]
  unfold Coordinator.perform
  split
  · exact holds
  · exact performed coordinator.store holds

/-- A read leaves the store as it is. -/
theorem maintains_find {collection : String} {filter : Filter} {page : Page} :
    Maintains property (call (.find collection filter page)) :=
  maintains_call fun _ holds => holds

variable {ids : List String}

/-- What is done to rules opens no link. -/
theorem settled_of_rules {asked : StoreCall} (own : asked.collection = rules) :
    Maintains (Settled ids) (call asked) := by
  refine maintains_call fun store settled document member => settled document ?_
  -- The documents of the links are not those that the call changes.
  have apart : links ≠ asked.collection := own ▸ (by decide : links ≠ rules)
  rwa [Store.documents_perform_of_ne apart] at member

/-- Links that change hands are not opened if only open ones do, or if they are closed. -/
theorem settled_of_stamp {filter : Filter} {status : LinkStatus} {worker : String} {now : Int}
    (opened : status ≠ .completed → status ≠ .cancelled → ∀ document, Store.chosen filter document = true →
      (Json.object document).field "status" = .string LinkStatus.running.text ∨
        (Json.object document).field "status" = .string LinkStatus.active.text) :
    Maintains (Settled ids) (call (.updateMany links filter (stamp status worker now))) := by
  refine maintains_call fun store settled document member => ?_
  have changed : (store.perform (.updateMany links filter (stamp status worker now))).2.documents links = _ :=
    store.documents_updateMany links filter (stamp status worker now)
  rw [changed] at member
  obtain ⟨before, among, rfl⟩ := List.mem_map.mp member
  -- What is not chosen stays as it is.
  split
  · rename_i chosen
    by_cases closed : status = .completed ∨ status = .cancelled
    · exact isOpenAmong_stamped closed ids worker now before
    · -- The identifier is that of a link that was open before.
      rw [not_or] at closed
      have isOpen := opened closed.1 closed.2 before chosen
      have fields := stamped_extend status worker now before
      rw [Bool.eq_false_iff, Ne, isOpenAmong_iff, fields.others "id" (by decide) (by decide) (by decide)]
      rintro ⟨named, -⟩
      exact Bool.false_ne_true ((settled before among).symm.trans (isOpenAmong_iff.mpr ⟨named, isOpen⟩))
  · exact settled before among

end Operation

section Requests

open Operation

variable {property : Store → Prop} {ids : List String} {now : Int}

/-- Looking for a rule leaves the store as it is. -/
theorem maintains_getRule (id : String) : Maintains property (getRule now id) := by
  -- It finds documents, reads them, and gives the first one or fails.
  refine maintains_bind maintains_find fun _ => maintains_bind maintains_decode fun _ => ?_
  split
  · exact maintains_pure _
  · exact maintains_throw _

/-- Looking for an active rule leaves the store as it is. -/
theorem maintains_firstActive (checked candidates : List String) :
    Maintains property (firstActive now checked candidates) := by
  -- The candidates are looked up one by one, whether or not they are there.
  induction candidates generalizing checked with
  | nil => exact maintains_pure _
  | cons id rest ih =>
    unfold firstActive
    split
    · exact ih checked
    · refine maintains_bind (maintains_tried (maintains_getRule id)) fun outcome => ?_
      split
      · split
        · exact maintains_pure _
        · exact ih _
      · exact ih _
      · exact maintains_throw _

/-- Selecting a rule leaves the store as it is. -/
theorem maintains_selectRule (sample : Nat) (shuffle : List String → List String) (wanted : Option String) :
    Maintains property (selectRule now sample shuffle wanted) := by
  -- It only finds and reads, for the rule that is wanted or for the sample.
  unfold selectRule
  split
  · exact maintains_bind (maintains_getRule _) fun _ => maintains_pure _
  · exact maintains_bind maintains_find fun _ => maintains_bind maintains_decode fun _ => maintains_firstActive _ _

/-- Cancelling links opens none. -/
theorem settled_cancelLinks (ruleId : String) : Maintains (Settled ids) (cancelLinks now ruleId) :=
  settled_of_stamp fun _ notCancelled => absurd rfl notCancelled

/-- Completing links opens none. -/
theorem settled_complete (done : List String) : Maintains (Settled ids) (complete now done) := by
  -- The stamp is that of a completed link.
  unfold complete
  split
  · exact maintains_pure _
  · exact settled_of_stamp fun notCompleted => absurd rfl notCompleted

/-- Taking leases back opens no link that is closed. -/
theorem settled_reclaim (staleAfter : Int) : Maintains (Settled ids) (reclaim now staleAfter) :=
  settled_of_stamp fun _ _ _ chosen => .inl (field_of_chosen (by simp) chosen)

/-- Leasing links opens no link that is closed. -/
theorem settled_allocate (ruleId worker : String) (size : Nat) :
    Maintains (Settled ids) (allocate now ruleId worker size) := by
  -- Of the calls only the claim writes, and it chooses active links.
  unfold allocate
  dsimp only
  split
  · exact maintains_throw_bind _ _
  split
  · exact maintains_pure _
  refine maintains_bind maintains_find fun _ => maintains_bind maintains_decode fun candidates => ?_
  split
  · exact maintains_pure _
  exact maintains_bind (settled_of_stamp fun _ _ _ chosen => .inr (field_of_chosen (by simp) chosen)) fun _ =>
    maintains_bind maintains_find fun _ => maintains_decode

/-- Storing a rule opens no link. -/
theorem settled_upsertRule (rule : Rule) : Maintains (Settled ids) (upsertRule now rule) := by
  -- The rule gets an identifier or has one. Then it is refused, or it comes to the rules.
  unfold upsertRule
  split
  on_goal 1 => refine maintains_bind maintains_freshId fun id => ?_
  on_goal 2 => refine maintains_bind (maintains_pure _) fun id => ?_
  all_goals
    dsimp only
    split
    · exact maintains_bind (settled_of_rules rfl) fun _ => maintains_pure _
    · exact maintains_throw_bind _ _

/-- No request opens links that are closed, unless it makes new ones. -/
theorem Request.settled {request : Request} (old : ∀ ruleId, request ≠ .generateLinks ruleId) (now : Instant) :
    Maintains (Settled ids) (request.operation now) := by
  -- By the request, only one of which makes links.
  cases request with
  | upsertRule rule fits => exact settled_upsertRule rule
  | getRule id => exact maintains_getRule id
  | listRules page => exact maintains_bind maintains_find fun _ => maintains_decode
  | linksOf ruleId page => exact maintains_bind maintains_find fun _ => maintains_decode
  | dueRules at_ =>
    exact maintains_bind maintains_find fun _ => maintains_bind maintains_decode fun _ => maintains_pure _
  | cancelRule id =>
    exact maintains_bind (maintains_getRule id) fun _ => maintains_bind (settled_of_rules rfl) fun _ =>
      settled_cancelLinks id
  | generateLinks ruleId => exact absurd rfl (old ruleId)
  | allocate ruleId worker size => exact settled_allocate ruleId worker size
  | complete done => exact settled_complete done
  | reclaim staleAfter => exact settled_reclaim staleAfter
  | selectRule sample shuffle wanted => exact maintains_selectRule sample shuffle wanted

end Requests

end Lease

end Harvest

import Harvest.Proofs.Lease.Undisturbed
import Harvest.Proofs.Lease.Attempt

/-! How operations fare while calls are bound to fail. Each call is struck, or does what it does when none fails, and
the operation goes on or ends with the failure. -/

namespace Harvest

namespace Lease

/-- The operation never turns to the store, so that the calls that are bound to fail are nothing to it. -/
def Operation.Quiet (operation : Operation α) : Prop :=
  ∀ (name : Nat → String) (coordinator : Coordinator) (outages : List Outage),
    { coordinator with outages }.run name operation =
      ((coordinator.run name operation).1, { (coordinator.run name operation).2 with outages })

/-- The operation, run by any coordinator with the ledger behind it while these calls are bound to fail, has an end as
described: what it gives, which ledger it leaves, and which calls are still bound to fail. -/
def Operation.Fares (name : Nat → String) (outages : List Outage)
    (ends : Except StoreError α → Ledger → List Outage → Prop) (operation : Operation α) (ledger : Ledger) : Prop :=
  ∀ coordinator : Coordinator, ledger.Behind True coordinator → coordinator.outages = outages →
    ∃ after : Ledger, after.Behind True (coordinator.run name operation).2 ∧
      ends (coordinator.run name operation).1 after (coordinator.run name operation).2.outages

namespace Operation

/-- An operation that only gives a result is quiet. -/
theorem quiet_pure (result : α) : Quiet (pure result : Operation α) :=
  fun _ _ _ => rfl

/-- An operation that only fails is quiet. -/
theorem quiet_throw (cause : StoreError) : Quiet (throw cause : Operation α) :=
  fun _ _ _ => rfl

/-- Reading documents that are at hand is quiet. -/
theorem quiet_decode (read? : Json → Option α) (documents : List Json) : Quiet (decode read? documents) := by
  -- Nothing is asked, whether the documents can be read or not.
  unfold decode
  split
  · exact quiet_pure _
  · exact quiet_throw _

/-- Taking an identifier is quiet. -/
theorem quiet_freshId : Quiet freshId :=
  fun _ _ _ => rfl

/-- To go on quietly, or to fail, is quiet. -/
theorem quiet_resume {next : α → Operation β} (quiet : ∀ result, Quiet (next result)) (outcome : Except StoreError α) :
    Quiet (resume next outcome) := by
  -- A failure asks for nothing more.
  cases outcome with
  | ok result => exact quiet result
  | error cause => exact quiet_throw cause

/-- A quiet operation followed by quiet ones is quiet. -/
theorem quiet_bind {first : Operation α} {next : α → Operation β} (quiet : Quiet first)
    (onwards : ∀ result, Quiet (next result)) : Quiet (first >>= next) := by
  -- The second one begins where the first has left the coordinator as it was.
  intro name coordinator outages
  rw [Coordinator.run_bind, Coordinator.run_bind, quiet name coordinator outages]
  exact quiet_resume onwards _ name _ outages

/-- New links are made quietly. -/
theorem quiet_newLinks (now : Int) (ruleId : String) (urls : List String) : Quiet (newLinks now ruleId urls) := by
  -- By the addresses, each of which takes an identifier and nothing else.
  induction urls with
  | nil => exact quiet_pure _
  | cons url rest ih => exact quiet_bind quiet_freshId fun _ => quiet_bind ih fun _ => quiet_pure _

variable {name : Nat → String} {outages : List Outage} {ledger : Ledger}

/-- An operation that only gives a result leaves the ledger and the calls that are bound to fail. -/
theorem fares_pure {ends : Except StoreError α → Ledger → List Outage → Prop} {result : α}
    (ended : ends (.ok result) ledger outages) : Fares name outages ends (pure result) ledger := by
  rintro coordinator behind rfl
  exact ⟨ledger, behind, ended⟩

/-- An operation that only fails does so as well. -/
theorem fares_throw {ends : Except StoreError α → Ledger → List Outage → Prop} {cause : StoreError}
    (ended : ends (.error cause) ledger outages) : Fares name outages ends (throw cause : Operation α) ledger := by
  rintro coordinator behind rfl
  exact ⟨ledger, behind, ended⟩

/-- A quiet operation ends as it does when no call fails. -/
theorem fares_quiet {operation : Operation α} {ends : Except StoreError α → Ledger → List Outage → Prop}
    (quiet : Quiet operation)
    (led : Leads name False (fun outcome after => ends outcome after outages) operation ledger) :
    Fares name outages ends operation ledger := by
  rintro ⟨store, outages, minted⟩ behind rfl
  obtain ⟨after, behind', ended⟩ := led ⟨store, [], minted⟩
    ⟨behind.kept, behind.others, behind.minted, fun some_left => absurd rfl some_left⟩
  -- It is run as it is when no call is bound to fail.
  have alike := quiet name ⟨store, [], minted⟩ outages
  rw [alike]
  exact ⟨after, ⟨behind'.kept, behind'.others, behind'.minted, fun _ => trivial⟩, ended⟩

/-- An operation followed by another one ends like this one from wherever the first ends, or with its failure. -/
theorem fares_bind {first : Operation α} {next : α → Operation β}
    {ends : Except StoreError β → Ledger → List Outage → Prop}
    (fared : Fares name outages (fun outcome after left => Further
      (fun result after => Fares name left ends (next result) after) (fun cause after => ends (.error cause) after left)
      outcome after) first ledger) :
    Fares name outages ends (first >>= next) ledger := by
  intro coordinator behind bound
  -- Where the first operation ends, with what is still bound to fail, the other one goes on.
  obtain ⟨middle, behind', ended⟩ := fared coordinator behind bound
  rw [Coordinator.run_bind]
  cases outcome : (coordinator.run name first).1 with
  | error cause =>
    rw [outcome] at ended
    exact ⟨middle, behind', ended⟩
  | ok result =>
    rw [outcome] at ended
    exact ended _ behind' rfl

/-- An operation that makes one call fails if the call is struck, and else ends as it does when no call fails. -/
theorem fares_once {asked : StoreCall} {rest : asked.Result → Operation α}
    {ends : Except StoreError α → Ledger → List Outage → Prop} (quiet : ∀ result, Quiet (rest result))
    (led : Leads name False (fun outcome after => ∀ left, Outage.strike asked.method outages = (none, left) →
      ends outcome after left) (call asked >>= rest) ledger)
    (struck : ∀ reason left, Outage.strike asked.method outages = (some reason, left) →
      ends (.error (.backend reason)) ledger left) :
    Fares name outages ends (call asked >>= rest) ledger := by
  rintro ⟨store, outages, minted⟩ behind rfl
  have called (coordinator : Coordinator) : coordinator.run name (call asked) = coordinator.perform asked := rfl
  rw [Coordinator.run_bind, called]
  cases strikes : Outage.strike asked.method outages with
  | mk strike left =>
    cases strike with
    | some reason =>
      -- The call never comes to the store.
      have failed : (Coordinator.mk store outages minted).perform asked =
          (.error (.backend reason), ⟨store, left, minted⟩) := by
        simp only [Coordinator.perform, strikes]
      rw [failed]
      exact ⟨ledger, ⟨behind.kept, behind.others, behind.minted, fun _ => trivial⟩, struck reason left strikes⟩
    | none =>
      have performed : (Coordinator.mk store outages minted).perform asked =
          ((store.perform asked).1, ⟨(store.perform asked).2, left, minted⟩) := by
        simp only [Coordinator.perform, strikes]
      have undisturbed : (Coordinator.mk store [] minted).perform asked =
          ((store.perform asked).1, ⟨(store.perform asked).2, [], minted⟩) := rfl
      obtain ⟨after, behind', ended⟩ := led ⟨store, [], minted⟩
        ⟨behind.kept, behind.others, behind.minted, fun some_left => absurd rfl some_left⟩
      rw [Coordinator.run_bind, called, undisturbed] at behind' ended
      -- What follows the call is the same, whichever calls are bound to fail.
      have alike := quiet_resume quiet (store.perform asked).1 name ⟨(store.perform asked).2, [], minted⟩ left
      rw [performed, alike]
      exact ⟨after, ⟨behind'.kept, behind'.others, behind'.minted, fun _ => trivial⟩, ended left strikes⟩

/-- A single call fails if it is struck, and else ends as it does when no call fails. -/
theorem fares_call {asked : StoreCall} {ends : Except StoreError asked.Result → Ledger → List Outage → Prop}
    (led : Leads name False (fun outcome after => ∀ left, Outage.strike asked.method outages = (none, left) →
      ends outcome after left) (call asked) ledger)
    (struck : ∀ reason left, Outage.strike asked.method outages = (some reason, left) →
      ends (.error (.backend reason)) ledger left) :
    Fares name outages ends (call asked) ledger := by
  rw [← bind_pure (call asked)] at led ⊢
  exact fares_once quiet_pure led struck

/-- The search for a rule is one call. -/
theorem fares_getRule (valid : ledger.Valid) {now : Int} {id : String}
    {ends : Except StoreError Rule → Ledger → List Outage → Prop}
    (found : ∀ rule ∈ ledger.rules, rule.id = id → ∀ left, Outage.strike "find" outages = (none, left) →
      ends (.ok rule) ledger left)
    (missing : (∀ rule ∈ ledger.rules, rule.id ≠ id) → ∀ left, Outage.strike "find" outages = (none, left) →
      ends (.error (.notFound ("rule " ++ id))) ledger left)
    (struck : ∀ reason left, Outage.strike "find" outages = (some reason, left) →
      ends (.error (.backend reason)) ledger left) :
    Fares name outages ends (getRule now id) ledger := by
  -- What follows the call only looks at what was found.
  refine fares_once (fun documents => quiet_bind (quiet_decode _ _) fun read => ?_)
    (leads_getRule valid found missing False.elim) struck
  split
  · exact quiet_pure _
  · exact quiet_throw _

/-- The insertion of new links is one call. -/
theorem fares_insertLinks {added : List Link} {ends : Except StoreError Unit → Ledger → List Outage → Prop}
    (filled : ∀ left, Outage.strike "insert_many" outages = (none, left) →
      ends (.ok ()) { ledger with links := ledger.links ++ added } left)
    (struck : ∀ reason left, Outage.strike "insert_many" outages = (some reason, left) →
      ends (.error (.backend reason)) ledger left) :
    Fares name outages ends (call (.insertMany links (added.map Link.toJson))) ledger :=
  fares_call (leads_insertLinks filled False.elim) struck

end Operation

end Lease

end Harvest

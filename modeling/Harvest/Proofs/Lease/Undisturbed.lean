import Harvest.Lease.Coordinator
import Harvest.Proofs.Lease.Conduct
import Mathlib.Data.List.Nodup

/-! Operations that nothing disturbs: no call fails, and no other operation comes in between. What they do to the
links is told without the calls that they consist of. -/

namespace Harvest.Lease

/-- A coordinator none of whose calls is bound to fail. -/
def Coordinator.undisturbed (store : Store) (minted : Nat) : Coordinator :=
  ⟨store, [], minted⟩

/-- What an operation goes on with: the next one, or the failure of the one before. -/
def Operation.resume (next : α → Operation β) : Except StoreError α → Operation β
  | .ok result => next result
  | .error cause => throw cause

namespace Coordinator

variable {name : Nat → String} {store : Store} {minted : Nat}

/-- The second of two operations is run where the first has ended. -/
theorem run_bind (name : Nat → String) (coordinator : Coordinator) (first : Operation α)
    (next : α → Operation β) :
    coordinator.run name (first >>= next) =
      (coordinator.run name first).2.run name (Operation.resume next (coordinator.run name first).1) := by
  -- The second operation is asked for, or the failure of the first one is passed on.
  have whole : coordinator.run name (first >>= next) = _ :=
    Course.run_bind (answer name) first.run (ExceptT.bindCont next) coordinator
  rw [whole]
  unfold run
  cases (Course.run (answer name) first.run coordinator).1 <;> rfl

/-- After an operation that succeeds the next one is run. -/
theorem run_bind_ok {coordinator later : Coordinator} {first : Operation α} {result : α}
    (ran : coordinator.run name first = (.ok result, later)) (next : α → Operation β) :
    coordinator.run name (first >>= next) = later.run name (next result) := by
  rw [run_bind, ran]
  rfl

/-- The failure of an operation that is tried is a result. -/
theorem run_tried (name : Nat → String) (coordinator : Coordinator) (tried : Operation α) :
    coordinator.run name (ExceptT.lift tried.run) =
      (.ok (coordinator.run name tried).1, (coordinator.run name tried).2) :=
  Course.run_bind (answer name) tried.run (fun outcome => pure (Except.ok outcome)) coordinator

/-- An undisturbed call is performed by the store. -/
theorem run_call (request : StoreCall) :
    (undisturbed store minted).run name (call request) =
      ((store.perform request).1, undisturbed (store.perform request).2 minted) :=
  rfl

/-- Documents that read back are read. -/
theorem run_decode {coordinator : Coordinator} {read? : Json → Option α} {documents : List Json} {values : List α}
    (readable : documents.mapM read? = some values) :
    coordinator.run name (decode read? documents) = (.ok values, coordinator) := by
  simp only [decode, readable]
  rfl

end Coordinator

namespace Book.Kept

variable {name : Nat → String} {book : Book} {store : Store} {minted : Nat}

/-- An undisturbed update of links counts those that its filter sees. -/
theorem run_updateLinks (kept : book.Kept store) {filter : Filter} {set : Fields} {applies : Link → Prop}
    [DecidablePred applies] (sees : ∀ link, Store.chosen filter link.members = true ↔ applies link) :
    (Coordinator.undisturbed store minted).run name (call (.updateMany Lease.links filter set)) =
      (.ok (book.links.countP applies),
        .undisturbed (store.updateMany Lease.links filter set).1 minted) := by
  -- The update is one call, and the collection of links is changed as its documents are.
  have count : (store.updateMany Lease.links filter set).2 = book.links.countP applies := by
    simp only [Store.updateMany, kept.links]
    rw [← List.countP_eq_length_filter, List.countP_map]
    refine List.countP_congr fun link _ => ?_
    simpa using sees link
  rw [Coordinator.run_call, ← count]
  rfl

/-- An undisturbed read of links gives those that its filter chooses, inside the window. -/
theorem run_listLinks (kept : book.Kept store) (dated : ∀ link ∈ book.links, Record.IsTime link.updated)
    (filter : Filter) (page : Page) (now : Int) :
    (Coordinator.undisturbed store minted).run name
        (do decode (Link.ofJson? now) (← call (.find Lease.links filter page))) =
      (.ok (page.window (book.links.filter fun link => Store.chosen filter link.members)),
        .undisturbed store minted) := by
  -- The listing is one call, and every document that it finds is read as its link.
  have readable : (store.find Lease.links filter page).mapM (Link.ofJson? now) =
      some (page.window (book.links.filter fun link => Store.chosen filter link.members)) := by
    rw [kept.findLinks]
    refine mapM_of_readable fun link shown => Link.ofJson?_members (dated link ?_) now
    exact List.mem_of_mem_filter (Page.mem_of_mem_window shown)
  rw [Coordinator.run_bind_ok (Coordinator.run_call _)]
  exact Coordinator.run_decode readable

/-- An undisturbed search for a rule finds the one of the name. -/
theorem run_getRule (kept : book.Kept store) (valid : book.Valid) {rule : Rule} (stored : rule ∈ book.rules)
    (now : Int) :
    (Coordinator.undisturbed store minted).run name (getRule now rule.id) =
      (.ok rule, .undisturbed store minted) := by
  -- The window shows the first rule of the name, and there is no other.
  have shown : (Page.first 1).window (book.rules.filter fun other =>
      Store.chosen [Filter.isText "id" rule.id] other.members) = [rule] := by
    have itself : rule ∈ book.rules.filter fun other => Store.chosen [Filter.isText "id" rule.id] other.members :=
      List.mem_filter.mpr ⟨stored, (rule.chosen_id rule.id).mpr rfl⟩
    obtain ⟨first, rest, found⟩ := List.exists_cons_of_ne_nil (List.ne_nil_of_mem itself)
    obtain ⟨among, chosen⟩ := List.mem_filter.mp (found ▸ List.mem_cons_self : first ∈ _)
    obtain rfl := List.inj_on_of_nodup_map valid.ruleIds among stored ((first.chosen_id rule.id).mp chosen)
    rw [found]
    rfl
  have readable : (store.find Lease.rules [Filter.isText "id" rule.id] (Page.first 1)).mapM (Rule.ofJson? now) =
      some [rule] := by
    rw [kept.findRules, shown]
    exact mapM_of_readable fun other among => by
      rw [List.mem_singleton.mp among]
      exact Rule.ofJson?_members (valid.usable rule stored).1 now
  unfold getRule
  rw [Coordinator.run_bind_ok (Coordinator.run_call _), Coordinator.run_bind_ok (Coordinator.run_decode readable)]
  rfl

end Book.Kept

/-- Links that change hands keep their identifiers. -/
theorem map_id_changeLinks (applies : Link → Prop) [DecidablePred applies] (status : LinkStatus)
    (worker : String) (now : Int) (links : List Link) :
    (changeLinks applies (fun link => link.restamped status worker now) links).map Link.id =
      links.map Link.id := by
  -- A link that is stamped keeps its identifier, and so does one that is not.
  rw [changeLinks, List.map_map]
  refine List.map_congr_left fun link _ => ?_
  by_cases applied : applies link <;> simp [applied, Link.restamped]

/-- Links that change hands at a moment of the calendar are still dated. -/
theorem dated_changeLinks {applies : Link → Prop} [DecidablePred applies] {links : List Link}
    (dated : ∀ link ∈ links, Record.IsTime link.updated) (status : LinkStatus) (worker : String) (now : Instant) :
    ∀ link ∈ changeLinks applies (fun link => link.restamped status worker now) links,
      Record.IsTime link.updated := by
  -- A link that is changed gets the time of the change, and the others keep theirs.
  intro link among
  obtain ⟨before, member, rfl⟩ := List.mem_map.mp among
  by_cases applied : applies before
  · rw [if_pos applied]
    exact now.2
  · rw [if_neg applied]
    exact dated before member

/-- The links of a rule that can be leased. -/
def available (ruleId : String) (links : List Link) : List Link :=
  links.filter fun link => link.ruleId = ruleId ∧ link.status = .active

/-- The links that a lease takes: the first active ones of its rule, up to a number. -/
def batch (ruleId : String) (size : Nat) (links : List Link) : List Link :=
  (available ruleId links).take size

/-- The links after a lease: those that it takes are leased to the worker, and all others are as they were. -/
def handedOut (ruleId worker : String) (size : Nat) (now : Int) (links : List Link) : List Link :=
  changeLinks (· ∈ batch ruleId size links) (fun link => link.restamped .running worker now) links

section Links

variable {links : List Link} {ruleId : String} {size : Nat}

/-- A lease takes active links of its rule. -/
theorem mem_links_of_mem_batch {link : Link} (taken : link ∈ batch ruleId size links) :
    link ∈ links ∧ link.ruleId = ruleId ∧ link.status = .active := by
  obtain ⟨among, free⟩ := List.mem_filter.mp (List.mem_of_mem_take taken)
  exact ⟨among, of_decide_eq_true free⟩

/-- What a lease reads first are the links that it takes. -/
theorem window_eq_batch (ruleId : String) (size : Nat) (links : List Link) :
    (Page.first size).window (links.filter fun link => Store.chosen
      [Filter.isText "ruleID" ruleId, Filter.isText "status" LinkStatus.active.text] link.members) =
        batch ruleId size links := by
  -- The two conditions choose what is available, and the window shows the first of it.
  have chosen : (links.filter fun link => Store.chosen
      [Filter.isText "ruleID" ruleId, Filter.isText "status" LinkStatus.active.text] link.members) =
        available ruleId links :=
    List.filter_congr fun link _ => Bool.eq_iff_iff.mpr (by simp [link.chosen_ofRule])
  rw [chosen]
  rfl

/-- A link that goes by the identifier of one that is taken is that one. -/
theorem mem_batch_of_named (unique : (links.map Link.id).Nodup) {link : Link} (among : link ∈ links)
    (named : link.id ∈ (batch ruleId size links).map Link.id) : link ∈ batch ruleId size links := by
  -- Identifiers are unique among all links.
  obtain ⟨other, taken, same⟩ := List.mem_map.mp named
  obtain rfl := List.inj_on_of_nodup_map unique (mem_links_of_mem_batch taken).1 among same
  exact taken

/-- Among distinct entries the first ones are those that are among the first ones. -/
theorem filter_mem_take {entries : List Link} (distinct : entries.Nodup) (count : Nat) :
    entries.filter (· ∈ entries.take count) = entries.take count := by
  conv_rhs => rw [distinct.take_eq_filter_mem]
  exact List.filter_congr fun entry _ => by simp

/-- Among distinct entries those behind the first ones are not among the first ones. -/
theorem filter_not_mem_take {entries : List Link} (distinct : entries.Nodup) (count : Nat) :
    entries.filter (· ∉ entries.take count) = entries.drop count := by
  -- The first ones are all taken out, and none of the others is.
  have apart := List.disjoint_take_drop distinct (Nat.le_refl count)
  conv_lhs => rw [← List.take_append_drop count entries, List.filter_append]
  rw [List.take_append_drop, List.filter_eq_nil_iff.mpr (by simp), List.nil_append, List.filter_eq_self]
  exact fun entry behind => decide_eq_true fun before => apart before behind

/-- The links that a lease takes stand in the order in which all links do. -/
theorem filter_mem_batch (unique : (links.map Link.id).Nodup) :
    links.filter (· ∈ batch ruleId size links) = batch ruleId size links := by
  have distinct : (available ruleId links).Nodup := unique.of_map.filter _
  have first : (available ruleId links).filter (· ∈ batch ruleId size links) = batch ruleId size links :=
    filter_mem_take distinct size
  conv_rhs => rw [← first, available, List.filter_filter]
  refine List.filter_congr fun link among => ?_
  -- A link that is taken is active and of the rule.
  rw [Bool.eq_iff_iff, Bool.and_eq_true, decide_eq_true_iff, decide_eq_true_iff]
  exact ⟨fun taken => ⟨taken, (mem_links_of_mem_batch taken).2⟩, And.left⟩

/-- A lease leaves the active links of its rule that it does not take. -/
theorem available_handedOut (unique : (links.map Link.id).Nodup) (worker : String) (now : Int) :
    available ruleId (handedOut ruleId worker size now links) = (available ruleId links).drop size := by
  have distinct : (available ruleId links).Nodup := unique.of_map.filter _
  have behind : (available ruleId links).filter (· ∉ batch ruleId size links) = (available ruleId links).drop size :=
    filter_not_mem_take distinct size
  -- A link that is taken is active no more, and any other one stands where it stood.
  have decides : ∀ link ∈ links,
      decide ((if link ∈ batch ruleId size links then link.restamped .running worker now else link).ruleId = ruleId ∧
        (if link ∈ batch ruleId size links then link.restamped .running worker now else link).status = .active) =
          (decide (link ∉ batch ruleId size links) && decide (link.ruleId = ruleId ∧ link.status = .active)) := by
    intro link _
    by_cases taken : link ∈ batch ruleId size links
    · simp [taken, Link.restamped]
    · simp [taken]
  rw [← behind, available, handedOut, changeLinks, List.filter_map, Function.comp_def, List.filter_congr decides,
    available, List.filter_filter]
  refine (List.map_congr_left fun link left => if_neg ?_).trans (List.map_id' _)
  have left := (List.mem_filter.mp left).2
  rw [Bool.and_eq_true] at left
  exact of_decide_eq_true left.1

/-- Where a lease takes no links, all stay as they are. -/
theorem handedOut_of_batch_eq_nil (none_taken : batch ruleId size links = []) (worker : String) (now : Int) :
    handedOut ruleId worker size now links = links := by
  simp [handedOut, changeLinks, none_taken]

/-- The claim by identifiers takes the links of the batch. -/
theorem claimed_eq_handedOut (unique : (links.map Link.id).Nodup) (worker : String) (now : Int) :
    changeLinks (fun link => link.id ∈ (batch ruleId size links).map Link.id ∧ link.status = .active)
        (fun link => link.restamped .running worker now) links = handedOut ruleId worker size now links := by
  -- A link with the identifier of one of the batch is that one, which is active.
  refine List.map_congr_left fun link among => if_congr ⟨fun claimed => ?_, fun taken => ?_⟩ rfl rfl
  · exact mem_batch_of_named unique among claimed.1
  · exact ⟨List.mem_map_of_mem taken, (mem_links_of_mem_batch taken).2.2⟩

/-- What the worker holds by its claim are the links of the batch. -/
theorem held_handedOut (unique : (links.map Link.id).Nodup) (worker : String) (now : Int) :
    ((handedOut ruleId worker size now links).filter fun link =>
      Store.chosen [Filter.isOneOf "id" ((batch ruleId size links).map Link.id), Filter.isText "worker" worker,
        Filter.isText "status" LinkStatus.running.text] link.members) =
      (batch ruleId size links).map fun link => link.restamped .running worker now := by
  -- A link that is not taken has another identifier than those that are.
  have decides : ∀ link ∈ links, Store.chosen [Filter.isOneOf "id" ((batch ruleId size links).map Link.id),
      Filter.isText "worker" worker, Filter.isText "status" LinkStatus.running.text]
        (if link ∈ batch ruleId size links then link.restamped .running worker now else link).members =
          decide (link ∈ batch ruleId size links) := by
    intro link among
    rw [Bool.eq_iff_iff, Link.chosen_held, decide_eq_true_iff]
    split
    · rename_i taken
      have named : link.id ∈ (batch ruleId size links).map Link.id := List.mem_map_of_mem taken
      exact iff_of_true ⟨named, rfl, rfl⟩ taken
    · rename_i left
      exact iff_of_false (fun held => left (mem_batch_of_named unique among held.1)) left
  rw [handedOut, changeLinks, List.filter_map, Function.comp_def, List.filter_congr decides,
    filter_mem_batch unique]
  exact List.map_congr_left fun link taken => if_pos taken

end Links

/-- An undisturbed lease gives the links that it takes to the worker, and changes no others. -/
theorem Book.Kept.run_allocate {name : Nat → String} {book : Book} {store : Store} {minted : Nat}
    (kept : book.Kept store) (dated : ∀ link ∈ book.links, Record.IsTime link.updated)
    (unique : (book.links.map Link.id).Nodup) (now : Instant) (ruleId : String) {worker : String}
    (named : worker ≠ "") (size : Nat) :
    ∃ after, (Coordinator.undisturbed store minted).run name (allocate now ruleId worker size) =
        (.ok ((batch ruleId size book.links).map fun link => link.restamped .running worker now),
          .undisturbed after minted) ∧
      ({ book with links := handedOut ruleId worker size now book.links } : Book).Kept after ∧
      ∀ collection, collection ≠ Lease.links → after.documents collection = store.documents collection := by
  unfold allocate
  dsimp only
  rw [if_neg named]
  -- A lease of no links asks nothing, and one that finds none changes nothing.
  by_cases empty : size = 0
  · have none_taken : batch ruleId size book.links = [] := by simp [batch, empty]
    rw [if_pos empty, handedOut_of_batch_eq_nil none_taken, none_taken]
    exact ⟨store, rfl, kept, fun _ _ => rfl⟩
  rw [if_neg empty, ← bind_assoc, Coordinator.run_bind_ok (kept.run_listLinks dated _ _ _), window_eq_batch]
  by_cases none_taken : batch ruleId size book.links = []
  · rw [handedOut_of_batch_eq_nil none_taken, none_taken]
    exact ⟨store, rfl, kept, fun _ _ => rfl⟩
  rw [if_neg (by simpa using none_taken)]
  -- The links just read are claimed, and what is read last are these.
  rw [Coordinator.run_bind_ok (kept.run_updateLinks fun link => link.chosen_named _ .active)]
  have claimed := kept.updateLinks
    (fun link => link.chosen_named ((batch ruleId size book.links).map Link.id) .active)
    (fun link => link.members_extend_stamp .running worker now)
  rw [claimed_eq_handedOut unique] at claimed
  refine ⟨_, ?_, claimed, fun collection other => Store.documents_updateMany_of_ne other store
    [Filter.isOneOf "id" ((batch ruleId size book.links).map Link.id),
      Filter.isText "status" LinkStatus.active.text] (stamp .running worker now)⟩
  rw [claimed.run_listLinks (dated_changeLinks dated .running worker now), held_handedOut unique]
  rfl

end Harvest.Lease

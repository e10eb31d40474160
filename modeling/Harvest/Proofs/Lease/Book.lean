import Harvest.Proofs.Lease.Documents
import Harvest.Proofs.Store.Collections

/-! The rules and links behind the documents of a store: every call that an operation makes is a change of
these lists, and every read gives entries of them. -/

namespace Harvest

/-- Passing over and cutting off entries commutes with changing each of them. -/
theorem Page.window_map (page : Page) (change : α → β) (entries : List α) :
    page.window (entries.map change) = (page.window entries).map change := by
  -- A page without a limit is only passed over.
  obtain ⟨skip, limit⟩ := page
  cases limit <;> simp [window, List.map_drop, List.map_take]

/-- A window shows entries of the listing only. -/
theorem Page.mem_of_mem_window {page : Page} {entries : List α} {entry : α}
    (shown : entry ∈ page.window entries) : entry ∈ entries := by
  -- By whether the window has a limit.
  obtain ⟨skip, limit⟩ := page
  cases limit with
  | none => exact List.mem_of_mem_drop shown
  | some limit => exact List.mem_of_mem_drop (List.mem_of_mem_take shown)

namespace Lease

/-- The rules and links behind the documents of a store, in order of insertion. -/
structure Book where
  rules : List Rule := []
  links : List Link := []

/-- The store holds the documents of the book's rules and links, and no others. -/
structure Book.Kept (book : Book) (store : Store) : Prop where
  rules : store.documents Lease.rules = book.rules.map Rule.members
  links : store.documents Lease.links = book.links.map Link.members

/-- Rules are usable and have names of their own; a link names a worker exactly while it is leased. -/
structure Book.Valid (book : Book) : Prop where
  usable : ∀ rule ∈ book.rules, rule.Fits ∧ rule.missing = []
  ruleIds : (book.rules.map Rule.id).Nodup
  dated : ∀ link ∈ book.links, Record.IsTime link.updated
  consistent : ∀ link ∈ book.links, link.isConsistent = true

/-- Replaces the rule of the same name, or adds the rule at the end. -/
def putRule (rule : Rule) : List Rule → List Rule
  | [] => [rule]
  | old :: rest => if old.id = rule.id then rule.replacing old :: rest else old :: putRule rule rest

/-- The links, those that satisfy a condition changed. -/
def changeLinks (applies : Link → Prop) [DecidablePred applies] (change : Link → Link)
    (links : List Link) : List Link :=
  links.map fun link => if applies link then change link else link

/-- The rules, those that satisfy a condition changed. -/
def changeRules (applies : Rule → Prop) [DecidablePred applies] (change : Rule → Rule)
    (rules : List Rule) : List Rule :=
  rules.map fun rule => if applies rule then change rule else rule

namespace Book.Kept

variable {book : Book} {store : Store}

/-- Both collections of an empty store are empty. -/
theorem empty : ({} : Book).Kept {} :=
  ⟨rfl, rfl⟩

/-- An update of links whose filter sees a condition of theirs is a change of the links in the book. -/
theorem updateLinks (kept : book.Kept store) {filter : Filter} {set : Fields}
    {applies : Link → Prop} [DecidablePred applies] {change : Link → Link}
    (sees : ∀ link, Store.chosen filter link.members = true ↔ applies link)
    (changes : ∀ link, link.members.extend set = (change link).members) :
    ({ book with links := changeLinks applies change book.links } : Book).Kept
      (store.updateMany Lease.links filter set).1 := by
  -- The rules are in another collection.
  refine ⟨?_, ?_⟩
  · rw [Store.documents_updateMany_of_ne (by decide), kept.rules]
  · rw [Store.documents_updateMany, kept.links, changeLinks, List.map_map, List.map_map]
    refine List.map_congr_left fun link _ => ?_
    -- The filter and the condition decide alike, link by link.
    by_cases chosen : applies link
    · simp [(sees link).mpr chosen, chosen, changes]
    · simp [mt (sees link).mp chosen, chosen]

/-- An update of rules whose filter sees a condition of theirs is a change of the rules in the book. -/
theorem updateRules (kept : book.Kept store) {filter : Filter} {set : Fields}
    {applies : Rule → Prop} [DecidablePred applies] {change : Rule → Rule}
    (sees : ∀ rule, Store.chosen filter rule.members = true ↔ applies rule)
    (changes : ∀ rule, rule.members.extend set = (change rule).members) :
    ({ book with rules := changeRules applies change book.rules } : Book).Kept
      (store.updateMany Lease.rules filter set).1 := by
  -- As for links, with the collections the other way round.
  refine ⟨?_, ?_⟩
  · rw [Store.documents_updateMany, kept.rules, changeRules, List.map_map, List.map_map]
    refine List.map_congr_left fun rule _ => ?_
    by_cases chosen : applies rule
    · simp [(sees rule).mpr chosen, chosen, changes]
    · simp [mt (sees rule).mp chosen, chosen]
  · rw [Store.documents_updateMany_of_ne (by decide), kept.links]

/-- Inserting the documents of new links adds these to the book. -/
theorem insertLinks (kept : book.Kept store) (added : List Link) :
    ∃ after, store.insertMany Lease.links (added.map Link.toJson) = .ok after ∧
      ({ book with links := book.links ++ added } : Book).Kept after := by
  -- The documents of links are objects, which the store never refuses.
  obtain ⟨after, inserted, own, others⟩ :=
    store.insertMany_objects Lease.links (added.map Link.members)
  rw [List.map_map] at inserted
  refine ⟨after, inserted, ?_, ?_⟩
  · rw [others Lease.rules (by decide), kept.rules]
  · rw [own, kept.links, List.map_append]

/-- The documents of rules, searched for the name of a rule, are extended where the rules are. -/
theorem upsertInto_members (rule : Rule) (rules : List Rule) :
    Store.upsertInto [Filter.isText "id" rule.id] rule.members (rules.map Rule.members) =
      (putRule rule rules).map Rule.members := by
  -- Both walks stop at the first rule of the name, or at the end.
  induction rules with
  | nil =>
    -- A rule's document tells its name itself, so the filter has nothing to complete.
    rfl
  | cons old rest ih =>
    -- The filter decides like the comparison of names.
    have sees := old.chosen_id rule.id
    by_cases same : old.id = rule.id
    · simp [Store.upsertInto, putRule, sees.mpr same, same, Rule.members_extend_members]
    · simp [Store.upsertInto, putRule, mt sees.mp same, same, ih]

/-- Upserting the document of a rule under its name puts the rule into the book. -/
theorem upsertRule (kept : book.Kept store) (rule : Rule) :
    ∃ after, store.upsertOne Lease.rules [Filter.isText "id" rule.id] rule.toJson = .ok after ∧
      ({ book with rules := putRule rule book.rules } : Book).Kept after := by
  -- What the store does to the documents is what the book does to the rules.
  obtain ⟨after, upserted, own, others⟩ :=
    store.upsertOne_object Lease.rules [Filter.isText "id" rule.id] rule.members
  refine ⟨after, upserted, ?_, ?_⟩
  · rw [own, kept.rules, upsertInto_members]
  · rw [others Lease.links (by decide), kept.links]

/-- Reading links gives the chosen links of the book inside the window. -/
theorem findLinks (kept : book.Kept store) (filter : Filter) (page : Page) :
    store.find Lease.links filter page =
      (page.window (book.links.filter fun link => Store.chosen filter link.members)).map
        Link.toJson := by
  -- Choosing documents and cutting the window out of them happens link by link.
  rw [Store.find, kept.links, List.filter_map, Page.window_map, List.map_map]
  rfl

/-- Reading rules gives the chosen rules of the book inside the window. -/
theorem findRules (kept : book.Kept store) (filter : Filter) (page : Page) :
    store.find Lease.rules filter page =
      (page.window (book.rules.filter fun rule => Store.chosen filter rule.members)).map
        Rule.toJson := by
  rw [Store.find, kept.rules, List.filter_map, Page.window_map, List.map_map]
  rfl

end Book.Kept

end Lease

end Harvest

import Harvest.Lease.Coordinator
import Harvest.Proofs.Lease.Supply
import Harvest.Proofs.Lease.Terms
import Mathlib.Data.List.Forall2
import Mathlib.Data.List.Nodup

/-! One turn of an operation: a question that it may ask, answered by the store, moves links along their
life cycle, keeps the book valid, and is heard within the terms. -/

namespace Harvest

open Lease

/-- How a link may change while a request is worked on. -/
inductive Link.Moves : Request → Link → Link → Prop
  | stays {request : Request} {link : Link} : Moves request link link
  /-- An active link of the rule that is asked for is leased. -/
  | leased {link : Link} {worker : String} {size : Nat} (now : Instant) (active : link.status = .active)
      (named : worker ≠ "") :
      Moves (.allocate link.ruleId worker size) link (link.restamped .running worker now)
  /-- A lease is taken back. -/
  | takenBack {staleAfter : Int} {link : Link} (now : Instant) (leased : link.status = .running) :
      Moves (.reclaim staleAfter) link (link.restamped .active "" now)
  /-- An open link that is named is completed. -/
  | completed {ids : List String} {link : Link} (now : Instant) (named : link.id ∈ ids)
      (isOpen : link.status = .running ∨ link.status = .active) :
      Moves (.complete ids) link (link.restamped .completed "" now)
  /-- A link of the rule in question is cancelled unless it is completed. -/
  | cancelled {request : Request} {link : Link} (now : Instant) (own : request.cancels link.ruleId)
      (incomplete : link.status ≠ .completed) :
      Moves request link (link.restamped .cancelled "" now)

namespace Link.Moves

variable {request : Request} {before after : Link}

/-- No move changes which link it is. -/
theorem identity (moves : Moves request before after) :
    after.id = before.id ∧ after.url = before.url ∧ after.ruleId = before.ruleId := by
  cases moves <;> exact ⟨rfl, rfl, rfl⟩

/-- No move leaves a time that the calendar has no room for. -/
theorem dated (moves : Moves request before after) (sound : Record.IsTime before.updated) :
    Record.IsTime after.updated := by
  -- Every move stamps the link with the time of the request.
  cases moves with
  | stays => exact sound
  | leased now _ _ => exact now.2
  | takenBack now _ => exact now.2
  | completed now _ _ => exact now.2
  | cancelled now _ _ => exact now.2

/-- After a move a worker is named exactly while the link is leased. -/
theorem consistent (moves : Moves request before after) (sound : before.isConsistent = true) :
    after.isConsistent = true := by
  -- A lease has the worker's name, which is not empty, and every other step leaves none.
  cases moves with
  | stays => exact sound
  | leased now _ named => simp [isConsistent, restamped, named]
  | takenBack now _ => simp [isConsistent, restamped]
  | completed now _ _ => simp [isConsistent, restamped]
  | cancelled now _ _ => simp [isConsistent, restamped]

end Link.Moves

namespace Lease

/-- A change of the links that satisfy a condition moves each link if those that satisfy it move. -/
theorem changeLinks_moves {request : Request} {applies : Link → Prop} [DecidablePred applies]
    {change : Link → Link} {links : List Link}
    (moves : ∀ link ∈ links, applies link → Link.Moves request link (change link)) :
    List.Forall₂ (Link.Moves request) links (changeLinks applies change links) := by
  -- Links that do not satisfy the condition stay as they are.
  rw [changeLinks, List.forall₂_map_right_iff, List.forall₂_same]
  intro link among
  split
  · exact moves link among ‹_›
  · exact .stays

/-- Moved links have the identifiers and the rules that they had. -/
theorem map_placed_of_moves {request : Request} {links moved : List Link}
    (moves : List.Forall₂ (Link.Moves request) links moved) :
    moved.map (fun link => (link.id, link.ruleId)) = links.map fun link => (link.id, link.ruleId) := by
  -- No step of the life cycle touches either of them.
  induction moves with
  | nil => rfl
  | cons move _ ih =>
    obtain ⟨sameId, -, sameRule⟩ := move.identity
    simp [sameId, sameRule, ih]

/-- Moved links have the identifiers that they had. -/
theorem map_id_of_moves {request : Request} {links moved : List Link}
    (moves : List.Forall₂ (Link.Moves request) links moved) :
    moved.map Link.id = links.map Link.id := by
  -- The identifier is one of the two things that stay.
  have same := congrArg (List.map Prod.fst) (map_placed_of_moves moves)
  rwa [List.map_map, List.map_map] at same

/-- Everything has become one of the things afterwards, if these have come from those before one by one. -/
theorem exists_of_mem_before {α : Type} {becomes : α → α → Prop} {links moved : List α} {before : α}
    (moves : List.Forall₂ becomes links moved) (among : before ∈ links) :
    ∃ after ∈ moved, becomes before after := by
  -- What it has become stands at the same place.
  induction moves with
  | nil => cases among
  | cons move _ ih =>
    rcases List.mem_cons.mp among with rfl | later
    · exact ⟨_, by simp, move⟩
    · obtain ⟨after, member, move⟩ := ih later
      exact ⟨after, by simp [member], move⟩

/-- Everything afterwards has come from one of the things before, if it has come from those one by one. -/
theorem exists_of_mem_after {α : Type} {becomes : α → α → Prop} {links moved : List α} {after : α}
    (moves : List.Forall₂ becomes links moved) (among : after ∈ moved) :
    ∃ before ∈ links, becomes before after :=
  -- Looked at from the other side, it is the same correspondence.
  exists_of_mem_before (List.Forall₂.flip moves : List.Forall₂ (flip becomes) moved links) among

/-- Putting a rule into a list that has its name changes no names, and otherwise adds its own at the end. -/
theorem map_id_putRule (rule : Rule) (rules : List Rule) :
    (putRule rule rules).map Rule.id =
      if rule.id ∈ rules.map Rule.id then rules.map Rule.id else rules.map Rule.id ++ [rule.id] := by
  -- The walk ends at the first rule of the name, or behind all others.
  induction rules with
  | nil => simp [putRule]
  | cons old rest ih =>
    by_cases same : old.id = rule.id
    · simp [putRule, same, Rule.replacing]
    · rw [putRule, if_neg same, List.map_cons, ih]
      by_cases later : rule.id ∈ rest.map Rule.id <;> simp [later, Ne.symm same]

/-- What a rule must be to stay in the book is kept when it is put in the place of an older one. -/
theorem usable_replacing {rule old : Rule} (usable : rule.Fits ∧ rule.missing = [])
    (before : old.Fits) : (rule.replacing old).Fits ∧ (rule.replacing old).missing = [] := by
  -- Only the time of the last generation may be the older rule's.
  refine ⟨{ usable.1 with generated := fun time told => ?_ }, usable.2⟩
  cases own : rule.generated with
  | none => exact before.generated time (by simpa [Rule.replacing, own] using told)
  | some last => exact usable.1.generated time (by simpa [Rule.replacing, own] using told)

/-- Every rule after putting one in is usable if all were and the new one is. -/
theorem putRule_usable {rule : Rule} (usable : rule.Fits ∧ rule.missing = []) {rules : List Rule}
    (before : ∀ old ∈ rules, old.Fits ∧ old.missing = []) :
    ∀ kept ∈ putRule rule rules, kept.Fits ∧ kept.missing = [] := by
  -- The rule is put in a place of its own or in that of an older one.
  induction rules with
  | nil => simpa [putRule] using usable
  | cons old rest ih =>
    have older := before old (by simp)
    have others := ih fun other member => before other (by simp [member])
    rw [putRule]
    split
    · intro kept member
      rcases List.mem_cons.mp member with rfl | member
      · exact usable_replacing usable older.1
      · exact before kept (by simp [member])
    · intro kept member
      rcases List.mem_cons.mp member with rfl | member
      · exact older
      · exact others kept member

/-- What a question of a request and its answer do to the book: links move, new ones come behind them with
identifiers that were given out for them, and `fresh` is given out. -/
structure Turn (request : Request) (known known' : Knowledge) (before after : Book)
    (fresh : List String) : Prop where
  moved : ∃ moved added, after.links = moved ++ added ∧
    List.Forall₂ (Link.Moves request) before.links moved ∧
    added.map Link.id ++ known'.minted = known.minted ++ fresh
  read : ∀ link ∈ known'.read, link ∈ before.links
  placed : ∀ entry ∈ known'.placed,
    entry ∈ known.placed ∨ entry ∈ before.links.map fun link => (link.id, link.ruleId)
  valid : after.Valid

namespace Turn

variable {request : Request} {known : Knowledge} {book : Book}

/-- A turn that only moves links. -/
theorem ofMoves {links : List Link} (valid : book.Valid)
    (moves : List.Forall₂ (Link.Moves request) book.links links) :
    Turn request known known.unread book { book with links } [] where
  moved := ⟨links, [], by simp, moves, by simp [Knowledge.unread]⟩
  read := by simp [Knowledge.unread]
  placed := fun entry member => .inl member
  valid := {
    usable := valid.usable
    ruleIds := valid.ruleIds
    -- A link is as sound as the one that it has come from.
    dated := fun link member => by
      obtain ⟨before, among, move⟩ := exists_of_mem_after moves member
      exact move.dated (valid.dated before among)
    consistent := fun link member => by
      obtain ⟨before, among, move⟩ := exists_of_mem_after moves member
      exact move.consistent (valid.consistent before among) }

/-- Links that do not move at all. -/
theorem stays_all (links : List Link) : List.Forall₂ (Link.Moves request) links links :=
  List.forall₂_same.mpr fun _ _ => .stays

/-- A turn that only changes rules. -/
theorem ofRules {rules : List Rule} (valid : book.Valid)
    (usable : ∀ rule ∈ rules, rule.Fits ∧ rule.missing = []) (ids : (rules.map Rule.id).Nodup) :
    Turn request known known.unread book { book with rules } [] where
  moved := ⟨book.links, [], by simp, stays_all _, by simp [Knowledge.unread]⟩
  read := by simp [Knowledge.unread]
  placed := fun entry member => .inl member
  valid := { usable, ruleIds := ids, dated := valid.dated, consistent := valid.consistent }

/-- A turn that changes nothing. -/
theorem unchanged (valid : book.Valid) : Turn request known known.unread book book [] :=
  ofMoves valid (stays_all _)

/-- A turn that changes fields of rules which leave them usable under their names. -/
theorem ofChangedRules {applies : Rule → Prop} [DecidablePred applies] {change : Rule → Rule}
    (valid : book.Valid)
    (kept : ∀ rule, rule.Fits → (change rule).Fits ∧ (change rule).missing = rule.missing ∧
      (change rule).id = rule.id) :
    Turn request known known.unread book
      { book with rules := changeRules applies change book.rules } [] := by
  -- Rules that do not satisfy the condition are usable as they were.
  refine ofRules valid (fun rule member => ?_) ?_
  · obtain ⟨old, among, rfl⟩ := List.mem_map.mp member
    obtain ⟨fits, complete⟩ := valid.usable old among
    split
    · exact ⟨(kept old fits).1, (kept old fits).2.1.trans complete⟩
    · exact ⟨fits, complete⟩
  · have names : (changeRules applies change book.rules).map Rule.id = book.rules.map Rule.id := by
      rw [changeRules, List.map_map]
      refine List.map_congr_left fun rule among => ?_
      have fits := (valid.usable rule among).1
      by_cases chosen : applies rule <;> simp [chosen, (kept rule fits).2.2]
    rw [names]
    exact valid.ruleIds

end Turn

/-- A call changes the book as the request allows, and its answer is within the terms. -/
def Performs (request : Request) (known : Knowledge) (book : Book) (store : Store) (asked : StoreCall) :
    Prop :=
  ∃ after known', after.Kept (store.perform asked).2 ∧
    Hears known (.store asked) (store.perform asked).1 known' ∧
    Turn request known known' book after []

namespace Performs

variable {request : Request} {known : Knowledge} {book : Book} {store : Store}

/-- Reading links shows links of the book. -/
theorem findLinks (kept : book.Kept store) (valid : book.Valid) (filter : Filter) (page : Page) :
    Performs request known book store (.find links filter page) := by
  -- The links that are shown are some of those in the book, chosen by the filter.
  let found := page.window (book.links.filter fun link => Store.chosen filter link.members)
  have among : ∀ link ∈ found, link ∈ book.links ∧ Store.chosen filter link.members = true :=
    fun link shown => List.mem_filter.mp (Page.mem_of_mem_window shown)
  have heard : Hears known (.store (.find links filter page))
      (.ok (store.find links filter page)) (known.reading found) :=
    ⟨fun _ => ⟨found, kept.findLinks filter page, fun link shown =>
      ⟨valid.dated link (among link shown).1, (among link shown).2⟩, rfl⟩,
      fun same => absurd same (by decide)⟩
  -- Nothing has moved, but it is known now where the links that were read belong.
  have turn : Turn request known (known.reading found) book book [] :=
    { (Turn.unchanged valid : Turn request known known.unread book book []) with
      read := fun link shown => (among link shown).1
      placed := fun entry member => by
        rcases List.mem_append.mp member with old | new
        · exact .inl old
        · obtain ⟨link, shown, rfl⟩ := List.mem_map.mp new
          exact .inr (List.mem_map.mpr ⟨link, (among link shown).1, rfl⟩) }
  exact ⟨book, _, kept, heard, turn⟩

/-- Reading rules shows rules of the book. -/
theorem findRules (kept : book.Kept store) (valid : book.Valid) (filter : Filter) (page : Page) :
    Performs request known book store (.find rules filter page) := by
  -- The rules that are shown are some of those in the book.
  let found := page.window (book.rules.filter fun rule => Store.chosen filter rule.members)
  have fits : ∀ rule ∈ found, rule.Fits := fun rule shown =>
    (valid.usable rule (List.mem_filter.mp (Page.mem_of_mem_window shown)).1).1
  have heard : Hears known (.store (.find rules filter page))
      (.ok (store.find rules filter page)) known.unread :=
    ⟨fun same => absurd same (by decide),
      fun _ => ⟨⟨found, kept.findRules filter page, fits⟩, rfl⟩⟩
  exact ⟨book, _, kept, heard, .unchanged valid⟩

/-- An update of links is a change of the links that its filter sees, each of which must be a step that
the request allows. -/
theorem updateLinks (kept : book.Kept store) (valid : book.Valid) {filter : Filter} {set : Fields}
    {applies : Link → Prop} [DecidablePred applies] {change : Link → Link}
    (sees : ∀ link, Store.chosen filter link.members = true ↔ applies link)
    (changes : ∀ link, link.members.extend set = (change link).members)
    (moves : ∀ link ∈ book.links, applies link → Link.Moves request link (change link)) :
    Performs request known book store (.updateMany links filter set) :=
  ⟨_, _, kept.updateLinks sees changes, rfl, .ofMoves valid (changeLinks_moves moves)⟩

/-- An update of rules is a change of the rules that its filter sees, which must stay usable under their
names. -/
theorem updateRules (kept : book.Kept store) (valid : book.Valid) {filter : Filter} {set : Fields}
    {applies : Rule → Prop} [DecidablePred applies] {change : Rule → Rule}
    (sees : ∀ rule, Store.chosen filter rule.members = true ↔ applies rule)
    (changes : ∀ rule, rule.members.extend set = (change rule).members)
    (stays : ∀ rule, rule.Fits → (change rule).Fits ∧ (change rule).missing = rule.missing ∧
      (change rule).id = rule.id) :
    Performs request known book store (.updateMany rules filter set) :=
  ⟨_, _, kept.updateRules sees changes, rfl, .ofChangedRules valid stays⟩

/-- New links come in behind the others, with the identifiers that were given out for them. -/
theorem addLinks (kept : book.Kept store) (valid : book.Valid) {now : Instant} {added : List Link}
    (named : added.map Link.id = known.minted)
    (active : ∀ link ∈ added, link.status = .active ∧ link.worker = "" ∧ link.updated = now) :
    Performs request known book store (.insertMany links (added.map Link.toJson)) := by
  -- The identifiers that were kept for the links are now stored with them.
  obtain ⟨store', inserted, kept'⟩ := kept.insertLinks added
  refine ⟨{ book with links := book.links ++ added }, { known.unread with minted := [] }, ?_, ?_, ?_⟩
  · simpa only [Store.perform, inserted] using kept'
  · simp only [Store.perform, inserted]
    rfl
  · exact {
      moved := ⟨book.links, added, rfl, Turn.stays_all _, by simp [named]⟩
      read := by simp [Knowledge.unread]
      placed := fun entry member => .inl member
      valid := {
        usable := valid.usable
        ruleIds := valid.ruleIds
        dated := fun link member => by
          rcases List.mem_append.mp member with old | new
          · exact valid.dated link old
          · rw [(active link new).2.2]
            exact now.2
        consistent := fun link member => by
          rcases List.mem_append.mp member with old | new
          · exact valid.consistent link old
          · simp [Link.isConsistent, (active link new).1, (active link new).2.1] } }

/-- A usable rule takes the place of the one with its name, or comes in behind the others. -/
theorem upsertRule (kept : book.Kept store) (valid : book.Valid) {rule : Rule}
    (usable : rule.Fits ∧ rule.missing = []) :
    Performs request known book store (.upsertOne rules [Filter.isText "id" rule.id] rule.toJson) := by
  -- Where the rule comes to stand depends on whether its name is in the book.
  obtain ⟨store', upserted, kept'⟩ := kept.upsertRule rule
  refine ⟨{ book with rules := putRule rule book.rules }, known.unread, ?_, ?_, ?_⟩
  · simpa only [Store.perform, upserted] using kept'
  · simp only [Store.perform, upserted]
    rfl
  · refine .ofRules valid (putRule_usable usable valid.usable) ?_
    -- Either way no name occurs twice.
    rw [map_id_putRule]
    split
    · exact valid.ruleIds
    · rename_i new
      exact List.nodup_append.mpr ⟨valid.ruleIds, by simp, fun id old other last same => new (by
        rw [List.mem_singleton.mp last] at same
        exact same ▸ old)⟩

end Performs

/-- Every call that an operation may make changes the book as its request allows, and its answer is within
the terms. -/
theorem perform_turn {now : Instant} {request : Request} {known : Knowledge} {book : Book} {store : Store}
    {asked : StoreCall} (allowed : Asks now request known (.store asked)) (kept : book.Kept store)
    (valid : book.Valid) (unique : (book.links.map Link.id).Nodup)
    (placed : ∀ entry ∈ known.placed, entry ∈ book.links.map fun link => (link.id, link.ruleId)) :
    Performs request known book store asked := by
  -- Each call that the terms allow changes the book in a way of its own.
  cases allowed with
  | findLinks filter page => exact .findLinks kept valid filter page
  | findRules filter page => exact .findRules kept valid filter page
  | @lease ruleId worker size known ids named own =>
    refine .updateLinks kept valid (fun link => link.chosen_named ids .active)
      (fun link => link.members_extend_stamp ..) ?_
    rintro link among ⟨claimed, active⟩
    -- The name of a claimed link was read with the wanted rule, and no other link has that name.
    obtain ⟨seen, member, same⟩ := List.mem_map.mp (placed _ (own link.id claimed))
    obtain ⟨sameId, ofRule⟩ := Prod.mk.inj same
    have itself : seen = link := List.inj_on_of_nodup_map unique member among sameId
    subst itself
    subst ofRule
    exact .leased now active named
  | @complete ids known =>
    -- The filter lets nothing through that is completed or cancelled.
    refine .updateLinks kept valid (fun link => link.chosen_open ids)
      (fun link => link.members_extend_stamp ..) ?_
    rintro link - ⟨named, isOpen⟩
    exact .completed now named isOpen
  | takeBack bound =>
    -- Whatever the bound is, only leases are taken back.
    refine .updateLinks kept valid (fun link => link.chosen_stale bound)
      (fun link => link.members_extend_stamp ..) ?_
    rintro link - ⟨leased, -⟩
    exact .takenBack now leased
  | @cancelLinks request ruleId known own =>
    refine .updateLinks kept valid (fun link => link.chosen_incomplete ruleId)
      (fun link => link.members_extend_stamp ..) ?_
    rintro link - ⟨rfl, incomplete⟩
    exact .cancelled now own incomplete
  | addLinks named active => exact .addLinks kept valid named active
  | @cancelRule id known =>
    exact .updateRules kept valid (fun rule => rule.chosen_id id)
      (fun rule => rule.members_extend_cancelled now) fun rule fits =>
        ⟨{ fits with updated := now.2 }, rfl, rfl⟩
  | @dateRule ruleId known =>
    refine .updateRules kept valid (fun rule => rule.chosen_id ruleId)
      (fun rule => rule.members_extend_generated now) fun rule fits =>
        ⟨{ fits with generated := fun time told => ?_ }, rfl, rfl⟩
    cases told
    exact now.2
  | putRule usable => exact .upsertRule kept valid usable

/-- A coordinator fails a call without effect, or its store performs it. -/
theorem Coordinator.perform_cases (coordinator : Coordinator) (asked : StoreCall) :
    (coordinator.perform asked).2.minted = coordinator.minted ∧
      ((∃ reason, (coordinator.perform asked).1 = .error (.backend reason) ∧
          (coordinator.perform asked).2.store = coordinator.store) ∨
        (coordinator.perform asked).1 = (coordinator.store.perform asked).1 ∧
          (coordinator.perform asked).2.store = (coordinator.store.perform asked).2) := by
  -- An outage strikes or does not, and in either case the list of outages is all else that changes.
  unfold Coordinator.perform
  rcases Outage.strike asked.method coordinator.outages with ⟨_ | reason, outages⟩
  · exact ⟨rfl, .inr ⟨rfl, rfl⟩⟩
  · exact ⟨rfl, .inl ⟨reason, rfl, rfl⟩⟩

/-- A question that an operation may ask changes the book as its request allows, whether or not the call
fails, and is answered within the terms. -/
theorem Coordinator.answer_turn (name : Nat → String) (coordinator : Coordinator) {now : Instant}
    {request : Request} {known : Knowledge} {book : Book} {question : Question}
    (allowed : Asks now request known question) (kept : book.Kept coordinator.store)
    (valid : book.Valid) (unique : (book.links.map Link.id).Nodup)
    (placed : ∀ entry ∈ known.placed, entry ∈ book.links.map fun link => (link.id, link.ruleId)) :
    ∃ after known', after.Kept (coordinator.answer name question).2.store ∧
      Hears known question (coordinator.answer name question).1 known' ∧
      Turn request known known' book after
        (Supply.fresh name coordinator.minted (coordinator.answer name question).2.minted) ∧
      coordinator.minted ≤ (coordinator.answer name question).2.minted := by
  cases question with
  | freshId =>
    -- The identifier is kept until it is stored with its link.
    have turn : Turn request known { known.unread with minted := known.minted ++ [name coordinator.minted] }
        book book [name coordinator.minted] :=
      { moved := ⟨book.links, [], by simp, Turn.stays_all _, by simp⟩
        read := by simp [Knowledge.unread]
        placed := fun entry member => .inl member
        valid := valid }
    refine ⟨book, _, kept, rfl, ?_, Nat.le_succ _⟩
    simpa [Supply.fresh, Coordinator.answer] using turn
  | store asked =>
    obtain ⟨same, ⟨reason, failed, unchanged⟩ | ⟨result, changed⟩⟩ := coordinator.perform_cases asked
    · -- A call that fails is heard of, and the book stays.
      refine ⟨book, known.unread, ?_, ?_, ?_, ?_⟩
      · simpa only [Coordinator.answer, unchanged] using kept
      · simp only [Coordinator.answer, failed]
        exact ⟨⟨reason, rfl⟩, rfl⟩
      · simpa [Supply.fresh, Coordinator.answer, same] using Turn.unchanged valid
      · simp [Coordinator.answer, same]
    · obtain ⟨after, known', kept', heard, turn⟩ := perform_turn allowed kept valid unique placed
      refine ⟨after, known', ?_, ?_, ?_, ?_⟩
      · simpa only [Coordinator.answer, changed] using kept'
      · simpa only [Coordinator.answer, result] using heard
      · simpa [Supply.fresh, Coordinator.answer, same] using turn
      · simp [Coordinator.answer, same]

end Lease

end Harvest

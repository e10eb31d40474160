import Harvest.Proofs.Json.Texts
import Harvest.Proofs.Lease.Variants

/-! What is exchanged with workers and kept in stores: rules and links are read back from their documents and from
the texts of these, and whatever is accepted as a rule or link is the same when it is written and read again. -/

namespace Harvest

namespace Record

variable {α : Type}

/-- A whole number that is read from a document lies between its bounds. -/
theorem bounds_of_int? {value : Json} {low high n : Int} (read : int? low high value = some n) :
    low ≤ n ∧ n < high := by
  -- Any other form of a value is no number.
  cases value with
  | int m =>
    obtain ⟨inside, same⟩ :=
      Option.ite_none_right_eq_some.mp (show (if low ≤ m ∧ m < high then some m else none) = some n from read)
    exact Option.some.inj same ▸ inside
  | _ => cases read

/-- A number that is read from a document lies below its bound. -/
theorem lt_of_nat? {value : Json} {bound n : Nat} (read : nat? bound value = some n) : n < bound := by
  -- It is read as a whole number first.
  obtain ⟨whole, inside, rfl⟩ := Option.map_eq_some_iff.mp read
  obtain ⟨low, high⟩ := bounds_of_int? inside
  omega

/-- A time that is read from a document, where one may be, is one of the calendar. -/
theorem isTime_of_optional? {value : Json} {found : Option Int} (read : optional? time? value = some found) :
    ∀ time ∈ found, IsTime time := by
  -- It is missing, or read like any other time.
  rintro time rfl
  unfold optional? at read
  split at read
  · cases read
  · obtain ⟨_, inside, same⟩ := Option.map_eq_some_iff.mp read
    exact Option.some.inj same ▸ bounds_of_int? inside

/-- A field is read from its value, or is missing. -/
theorem of_read? (property : α → Prop) {names : List String} {missing result : α} {value? : Json → Option α}
    {members : List (String × Json)} (read : read? names missing value? members = some result)
    (absent : property missing) (present : ∀ value, value? value = some result → property result) :
    property result := by
  -- The field is found under one of its names, or not at all.
  obtain ⟨found, -, read⟩ := Option.bind_eq_some_iff.mp read
  cases found with
  | none => exact Option.some.inj read ▸ absent
  | some value => exact present value read

/-- A field that is accepted is read from the member of one of its names, if there is one. -/
theorem of_read?_of_mem {names : List String} {missing result : α} {value? : Json → Option α}
    {members : List (String × Json)} (read : read? names missing value? members = some result) {name : String}
    {value : Json} (among : (name, value) ∈ members) (named : name ∈ names) : value? value = some result := by
  obtain ⟨found, once, read⟩ := Option.bind_eq_some_iff.mp read
  -- The member is one of those that go by the names, and there is one of these at most.
  have member : (name, value) ∈ members.filter fun member => names.contains member.1 :=
    List.mem_filter.mpr ⟨among, by simpa using named⟩
  unfold field? at once
  split at once
  · rename_i none_found
    rw [none_found] at member
    cases member
  · rename_i only
    rw [only, List.mem_singleton] at member
    obtain rfl := Option.some.inj once
    obtain ⟨rfl, rfl⟩ := Prod.mk.inj member
    exact read
  · cases once

/-- How records are exchanged: those that are sound are read back from their documents and from the texts of these, at
any time, and so is whatever was accepted as a record before. -/
structure Exchanged (sound : α → Prop) (write : α → Json) (read? : Int → Json → Option α) : Prop where
  document : ∀ record, sound record → ∀ now, read? now (write record) = some record
  text : ∀ record, sound record → ∀ now,
    (Json.readAll? (write record).render.toList).bind (read? now) = some record
  accepted : ∀ (document : Json) (now : Instant) (record : α), read? now document = some record →
    ∀ later, read? later (write record) = some record ∧
      (Json.readAll? (write record).render.toList).bind (read? later) = some record

/-- Records are exchanged if the sound ones are read back from their documents, these can be written as text, and
nothing else is accepted. -/
theorem Exchanged.of_sound {sound : α → Prop} {write : α → Json} {read? : Int → Json → Option α}
    (kept : ∀ record, sound record → ∀ now, read? now (write record) = some record)
    (plain : ∀ record, sound record → (write record).Plain (Json.nestingLimit - 1))
    (accepts : ∀ (document : Json) (now : Instant) record, read? now document = some record → sound record) :
    Exchanged sound write read? := by
  -- A record that was accepted is a sound one, and those are read back.
  have text : ∀ record, sound record → ∀ now,
      (Json.readAll? (write record).render.toList).bind (read? now) = some record := by
    intro record fits now
    rw [Json.readAll?_render (plain record fits), Option.bind_some, kept record fits]
  refine ⟨kept, text, fun document now record accepted later => ?_⟩
  have fits := accepts document now record accepted
  exact ⟨kept record fits later, text record fits later⟩

/-- A time of the calendar can be written as text and read back. -/
theorem IsTime.plain {time : Int} (known : IsTime time) {depth : Nat} : Json.Plain depth (.int time) := by
  obtain ⟨low, high⟩ := known
  exact .int (by unfold Word.signBound; omega) (by unfold Word.bound; omega)

end Record

namespace Rule

/-- What is known of the members of a document that is accepted as a rule. -/
structure ReadFrom (now : Int) (members : List (String × Json)) (rule : Rule) : Prop where
  priority : Record.read? ["priority", "priorty"] 0 (Record.int? (-2147483648) 2147483648) members =
    some rule.priority
  fragments : Record.read? ["deepLinkPattern", "deeplinkPatterns"] [] fragments? members = some rule.fragments
  totalPages : Record.read? ["totalPages"] 0 (Record.nat? Word.halfBound) members = some rule.totalPages
  frequency : Record.read? ["frequency"] 0 (Record.nat? Word.bound) members = some rule.frequency
  updated : Record.read? ["lastUpdate"] now Record.time? members = some rule.updated
  generated : Record.read? ["lastGenerated"] none (Record.optional? Record.time?) members = some rule.generated

/-- A rule that is accepted is read from the members of its document. -/
theorem readFrom_of_ofJson? {now : Int} {document : Json} {rule : Rule} (accepted : ofJson? now document = some rule) :
    ∃ members, Record.fields? fieldNames document = some members ∧ rule.ReadFrom now members := by
  -- One field after the other is read, and none of them may be refused.
  obtain ⟨members, own, accepted⟩ := Option.bind_eq_some_iff.mp accepted
  obtain ⟨id, -, accepted⟩ := Option.bind_eq_some_iff.mp accepted
  obtain ⟨name, -, accepted⟩ := Option.bind_eq_some_iff.mp accepted
  obtain ⟨status, -, accepted⟩ := Option.bind_eq_some_iff.mp accepted
  obtain ⟨pattern, -, accepted⟩ := Option.bind_eq_some_iff.mp accepted
  obtain ⟨priority, readPriority, accepted⟩ := Option.bind_eq_some_iff.mp accepted
  obtain ⟨target, -, accepted⟩ := Option.bind_eq_some_iff.mp accepted
  obtain ⟨linkPattern, -, accepted⟩ := Option.bind_eq_some_iff.mp accepted
  obtain ⟨fragments, readFragments, accepted⟩ := Option.bind_eq_some_iff.mp accepted
  obtain ⟨totalPages, readPages, accepted⟩ := Option.bind_eq_some_iff.mp accepted
  obtain ⟨headers, -, accepted⟩ := Option.bind_eq_some_iff.mp accepted
  obtain ⟨frequency, readFrequency, accepted⟩ := Option.bind_eq_some_iff.mp accepted
  obtain ⟨updated, readUpdated, accepted⟩ := Option.bind_eq_some_iff.mp accepted
  obtain ⟨generated, readGenerated, accepted⟩ := Option.bind_eq_some_iff.mp accepted
  obtain rfl := Option.some.inj accepted
  exact ⟨members, own, readPriority, readFragments, readPages, readFrequency, readUpdated, readGenerated⟩

/-- Whatever is accepted as a rule has its numbers and times in the ranges that its document has room for. -/
theorem fits_of_ofJson? {now : Instant} {document : Json} {rule : Rule}
    (accepted : ofJson? now document = some rule) : rule.Fits := by
  -- Each number and time was read within its bounds, or is what stands for a missing one.
  obtain ⟨members, -, from_⟩ := readFrom_of_ofJson? accepted
  exact {
    priority := Record.of_read? (fun priority => -2147483648 ≤ priority ∧ priority < 2147483648) from_.priority
      (by decide) fun _ => Record.bounds_of_int?
    totalPages := Record.of_read? (· < Word.halfBound) from_.totalPages (by decide) fun _ => Record.lt_of_nat?
    frequency := Record.of_read? (· < Word.bound) from_.frequency (by decide) fun _ => Record.lt_of_nat?
    updated := Record.of_read? Record.IsTime from_.updated now.2 fun _ => Record.bounds_of_int?
    generated := Record.of_read? (fun found => ∀ time ∈ found, Record.IsTime time) from_.generated (by simp)
      fun _ => Record.isTime_of_optional? }

/-- The document of a rule is one that can be written as text and read back. -/
theorem toJson_plain {rule : Rule} (fits : rule.Fits) {depth : Nat} : rule.toJson.Plain (depth + 2) := by
  -- The numbers of a rule have room in a word, and nothing is nested deeper than its fragments.
  have texts : Json.Plain (depth + 1) (.array (rule.fragments.map .string)) := .array_map fun text _ => .string text
  have small : Json.Plain (depth + 1) (.int rule.priority) := by
    obtain ⟨low, high⟩ := fits.priority
    exact .int (by unfold Word.signBound; omega) (by unfold Word.bound; omega)
  have word {n : Nat} (below : n < Word.bound) : Json.Plain (depth + 1) (.int n) :=
    .int (by omega) (by omega)
  have pages : rule.totalPages < Word.bound := Nat.lt_trans fits.totalPages (by decide)
  refine .object (List.forall_mem_append.mpr ⟨?_, ?_⟩)
  · simp only [List.forall_mem_cons]
    exact ⟨.string _, .string _, .string _, .string _, small, .string _, .string _, texts, word pages, .string _,
      word fits.frequency, fits.updated.plain, by simp⟩
  · intro member among
    obtain ⟨time, told, rfl⟩ := Option.map_eq_some_iff.mp (Option.mem_toList.mp among)
    exact (fits.generated time told).plain

/-- Fragments that come as one text are the pieces between its commas, and none if the text is blank. -/
theorem fragments_of_joined {now : Int} {members : List (String × Json)} {rule : Rule}
    (accepted : ofJson? now (.object members) = some rule) {name text : String}
    (named : name = "deepLinkPattern" ∨ name = "deeplinkPatterns") (among : (name, .string text) ∈ members) :
    if Text.allBlank text.toList then rule.fragments = []
    else Text.join "," rule.fragments = text ∧ ∀ fragment ∈ rule.fragments, ',' ∉ fragment.toList := by
  -- The reading cuts the text at all commas, unless there is nothing to cut.
  obtain ⟨_, own, from_⟩ := readFrom_of_ofJson? accepted
  obtain rfl := Option.some.inj own
  have read := Record.of_read?_of_mem from_.fragments among (by simpa using named)
  have pieces : (if Text.allBlank text.toList then some []
      else some ((Text.splitAtChar ',' text.toList).map String.ofList)) = some rule.fragments := read
  split
  · rename_i blank
    rw [if_pos blank] at pieces
    exact (Option.some.inj pieces).symm
  · rename_i filled
    rw [if_neg filled] at pieces
    rw [← Option.some.inj pieces]
    refine ⟨Text.join_splitAtChar ',' text, fun fragment piece => ?_⟩
    obtain ⟨run, between, rfl⟩ := List.mem_map.mp piece
    rw [String.toList_ofList]
    exact Text.not_mem_of_mem_splitAtChar between

end Rule

namespace Link

/-- Whatever is accepted as a link is dated within the calendar. -/
theorem isTime_of_ofJson? {now : Instant} {document : Json} {link : Link}
    (accepted : ofJson? now document = some link) : Record.IsTime link.updated := by
  -- The time was read within its bounds, or is that of the reading.
  simp only [ofJson?, Option.bind_eq_bind, Option.bind_eq_some_iff] at accepted
  obtain ⟨members, -, id, -, url, -, status, -, worker, -, ruleId, -, updated, readUpdated, made⟩ := accepted
  obtain rfl := Option.some.inj made
  exact Record.of_read? Record.IsTime readUpdated now.2 fun _ => Record.bounds_of_int?

/-- The document of a link is one that can be written as text and read back. -/
theorem toJson_plain {link : Link} (dated : Record.IsTime link.updated) {depth : Nat} :
    link.toJson.Plain (depth + 1) := by
  -- A link has six texts and a time.
  refine .object ?_
  simp only [List.forall_mem_cons]
  exact ⟨.string _, .string _, .string _, .string _, .string _, dated.plain, by simp⟩

end Link

/-- Rules and links are the same after they are written and read again, whoever wrote them first; fragments that come
as one text are told apart at its commas. Documents that differ in the names of their fields and in the form of the
fragments only are read as the same rule or link, or refused alike. -/
theorem records_exchanged :
    Record.Exchanged Rule.Fits Rule.toJson Rule.ofJson? ∧
    Record.Exchanged (fun link => Record.IsTime link.updated) Link.toJson Link.ofJson? ∧
    (∀ (now : Int) (members : List (String × Json)) (rule : Rule) (name text : String),
      Rule.ofJson? now (.object members) = some rule →
      name = "deepLinkPattern" ∨ name = "deeplinkPatterns" → (name, .string text) ∈ members →
        if Text.allBlank text.toList then rule.fragments = []
        else Text.join "," rule.fragments = text ∧ ∀ fragment ∈ rule.fragments, ',' ∉ fragment.toList) ∧
    (∀ (members others : List (String × Json)) (now : Int), List.Forall₂ Rule.SameMember members others →
      Rule.ofJson? now (.object members) = Rule.ofJson? now (.object others)) ∧
    ∀ (members others : List (String × Json)) (now : Int), List.Forall₂ Link.SameMember members others →
      Link.ofJson? now (.object members) = Link.ofJson? now (.object others) := by
  -- Rules and links are the two kinds of records, with a lemma for each part.
  refine ⟨.of_sound ?_ ?_ ?_, .of_sound ?_ ?_ ?_, ?_, ?_, ?_⟩
  · exact fun rule fits now => Rule.ofJson?_members fits now
  · exact fun rule fits => rule.toJson_plain fits
  · exact fun document now rule => Rule.fits_of_ofJson?
  · exact fun link dated now => Link.ofJson?_members dated now
  · exact fun link dated => link.toJson_plain dated
  · exact fun document now link => Link.isTime_of_ofJson?
  · exact fun now members rule name text accepted named among => Rule.fragments_of_joined accepted named among
  · exact fun members others now alike => Rule.ofJson?_congr alike now
  · exact fun members others now alike => Link.ofJson?_congr alike now

/-- A rule with three fragments, the second of which is empty. -/
def fragmentedRule : Rule :=
  { id := "r", priority := 3, fragments := ["a", "", "b"], updated := 5 }

/-- The members of its document. -/
def fragmentedMembers : List (String × Json) :=
  [("id", .string "r"), ("priority", .int 3), ("deepLinkPattern", .array [.string "a", .string "", .string "b"]),
    ("lastUpdate", .int 5)]

/-- The members of a document of an older kind: other names for two of the fields, and the fragments in one text. -/
def olderMembers : List (String × Json) :=
  [("id", .string "r"), ("priorty", .int 3), ("deeplinkPatterns", .string "a,,b"), ("lastUpdate", .int 5)]

/-- The older document tells the same as the newer one. -/
theorem sameMember_olderMembers : List.Forall₂ Rule.SameMember olderMembers fragmentedMembers := by
  -- Two names are older ones, and one text is cut at its commas.
  have joined : Rule.Fragments (.string "a,,b") ["a", "", "b"] :=
    .joined (fun white => absurd (white 'a' (by simp)) (by decide)) (Text.cut_splitAtChar ',' "a,,b".toList)
  refine .cons ⟨.inl rfl, .inl rfl⟩ (.cons ⟨.inr ?_, .inl rfl⟩ (.cons ⟨.inr ?_, .inr ⟨by decide, _, joined, ?_⟩⟩
    (.cons ⟨.inl rfl, .inl rfl⟩ .nil)))
  · exact ⟨["priority", "priorty"], by decide, by decide, by decide⟩
  · exact ⟨["deepLinkPattern", "deeplinkPatterns"], by decide, by decide, by decide⟩
  · exact .list ["a", "", "b"]

/-- The older document is read as the rule, which is found again in its own document and in the text of that. -/
theorem records_exchanged_olderMembers :
    Rule.ofJson? 7 (.object olderMembers) = some fragmentedRule ∧
      Text.join "," fragmentedRule.fragments = "a,,b" ∧
      ∀ later, Rule.ofJson? later fragmentedRule.toJson = some fragmentedRule ∧
        (Json.readAll? fragmentedRule.toJson.render.toList).bind (Rule.ofJson? later) = some fragmentedRule := by
  -- The newer document is read as the rule, and the older one is read alike.
  obtain ⟨rules, -, joined, older, -⟩ := records_exchanged
  have newer : Rule.ofJson? 7 (.object fragmentedMembers) = some fragmentedRule := by decide +kernel
  have read := (older olderMembers fragmentedMembers 7 sameMember_olderMembers).trans newer
  have whole := joined 7 olderMembers fragmentedRule "deeplinkPatterns" "a,,b" read (.inr rfl) (by simp [olderMembers])
  exact ⟨read, whole.1, rules.accepted (.object olderMembers) ⟨7, by decide⟩ fragmentedRule read⟩

end Harvest

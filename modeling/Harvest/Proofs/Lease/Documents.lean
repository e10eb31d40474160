import Harvest.Lease.Operation

/-! The stored documents of links and rules: they read back, filters see their fields, and setting fields of
a document is changing the link or rule behind it. -/

namespace Harvest

/-- The times that the calendar has room for. -/
def Record.IsTime (time : Int) : Prop :=
  -8334601228800000 ≤ time ∧ time < 8210266876800000

instance (time : Int) : Decidable (Record.IsTime time) :=
  inferInstanceAs (Decidable (_ ∧ _))

/-- A moment of the calendar in milliseconds. -/
abbrev Instant := { time : Int // Record.IsTime time }

namespace Record

/-- A time of the calendar is read back from a document. -/
theorem time?_int {time : Int} (known : IsTime time) : time? (Json.int time) = some time :=
  if_pos known

/-- A whole number below its bound is read back from a document. -/
theorem nat?_int {bound n : Nat} (small : n < bound) : nat? bound (Json.int n) = some n := by
  -- The bounds are those of the whole numbers that the number is stored as.
  have inside : (0 : Int) ≤ n ∧ (n : Int) < bound := by omega
  simp [nat?, int?, inside]

/-- A field that is there once is read, whatever stands for it when it is missing. -/
theorem read?_eq {names : List String} {missing result : α} {value? : Json → Option α}
    {members : List (String × Json)} {value : Json}
    (found : field? names members = some (some value)) (readable : value? value = some result) :
    read? names missing value? members = some result := by
  -- What stands for a missing field does not come in.
  simp [read?, found, readable]

/-- Reading goes on with a value that was read. -/
theorem read_then {found : Option α} {value : α} {next : α → Option β} {result : β}
    (read : found = some value) (rest : next value = some result) : (found >>= next) = some result := by
  rw [read]
  exact rest

end Record

namespace Store

/-- A filter without conditions chooses every document. -/
@[simp] theorem chosen_nil (document : Fields) : chosen [] document = true :=
  rfl

/-- A document is chosen if it satisfies the first condition and all others. -/
theorem chosen_cons (name : String) (condition : Condition) (rest : Filter) (document : Fields) :
    chosen ((name, condition) :: rest) document =
      (condition.holds ((Json.object document).field name) && chosen rest document) := by
  -- The conditions of a filter are tried in order.
  simp [chosen, Filter.accepts]

variable {name text value : String} {texts : List String} {document : Fields}

/-- A text is the wanted one, or the document is not chosen. -/
theorem chosen_isText (rest : Filter) (holds : (Json.object document).field name = .string value) :
    chosen (Filter.isText name text :: rest) document = true ↔
      value = text ∧ chosen rest document = true := by
  -- Two texts are the same value exactly if they are equal.
  simp [Filter.isText, chosen_cons, Condition.holds, holds, Json.same]

/-- A text is another one, or the document is not chosen. -/
theorem chosen_isNotText (rest : Filter) (holds : (Json.object document).field name = .string value) :
    chosen (Filter.isNotText name text :: rest) document = true ↔
      value ≠ text ∧ chosen rest document = true := by
  -- The text is there, so that it only has to differ.
  simp [Filter.isNotText, chosen_cons, Condition.holds, holds, Json.same]

/-- A text is one of the wanted ones, or the document is not chosen. -/
theorem chosen_isOneOf (rest : Filter) (holds : (Json.object document).field name = .string value) :
    chosen (Filter.isOneOf name texts :: rest) document = true ↔
      value ∈ texts ∧ chosen rest document = true := by
  -- The document's text is compared with each of the wanted ones.
  simp [Filter.isOneOf, chosen_cons, Condition.holds, holds, Json.same]

end Store

/-- No two statuses of links are written alike. -/
theorem LinkStatus.text_inj {status other : LinkStatus} : status.text = other.text ↔ status = other := by
  -- There are four by four cases.
  cases status <;> cases other <;> decide

/-- No two statuses of rules are written alike. -/
theorem RuleStatus.text_inj {status other : RuleStatus} : status.text = other.text ↔ status = other := by
  cases status <;> cases other <;> decide

namespace Link

open Lease Store

/-- The members of a link's document. -/
def members (link : Link) : Fields :=
  link.toJson.fields

/-- The link in other hands, or in none. -/
def restamped (link : Link) (status : LinkStatus) (worker : String) (now : Int) : Link :=
  { link with status, worker, updated := now }

/-- Setting the fields of a lease is the same change of the link. -/
theorem members_extend_stamp (link : Link) (status : LinkStatus) (worker : String) (now : Int) :
    link.members.extend (stamp status worker now) = (link.restamped status worker now).members :=
  rfl

/-- A link is read back from its document. -/
theorem ofJson?_members {link : Link} (dated : Record.IsTime link.updated) (now : Int) :
    ofJson? now (.object link.members) = some link := by
  -- Every field is found by its name, whatever its value is.
  have id : Record.require? ["id"] Json.string? link.members = some link.id := rfl
  have url : Record.require? ["link"] Json.string? link.members = some link.url := rfl
  have worker : Record.read? ["worker", "scraper"] "" Json.string? link.members = some link.worker := rfl
  have ruleId : Record.require? ["ruleID"] Json.string? link.members = some link.ruleId := rfl
  have updated : Record.read? ["lastUpdate"] now Record.time? link.members = some link.updated :=
    Record.read?_eq rfl (Record.time?_int dated)
  -- Each of the four statuses is found by its text.
  have status : Record.read? ["status"] .active
      (Record.choice? [("Active", LinkStatus.active), ("Running", .running), ("Completed", .completed),
        ("Cancelled", .cancelled)]) link.members = some link.status := by
    obtain ⟨_, _, status, _, _, _⟩ := link
    cases status <;> rfl
  -- The fields are read in the order in which the link is put together.
  refine Record.read_then rfl (Record.read_then id (Record.read_then url (Record.read_then status ?_)))
  exact Record.read_then worker (Record.read_then ruleId (Record.read_then updated rfl))

variable (link : Link)

/-- The document tells the identifier of the link. -/
theorem field_id : (Json.object link.members).field "id" = .string link.id :=
  rfl

/-- The document tells the rule of the link. -/
theorem field_ruleId : (Json.object link.members).field "ruleID" = .string link.ruleId :=
  rfl

/-- The document tells the status of the link by its text. -/
theorem field_status : (Json.object link.members).field "status" = .string link.status.text :=
  rfl

/-- The document tells the worker of the link. -/
theorem field_worker : (Json.object link.members).field "worker" = .string link.worker :=
  rfl

/-- The document tells the last change of the link. -/
theorem field_updated : (Json.object link.members).field "lastUpdate" = .int link.updated :=
  rfl

/-- The conditions of a lease see the rule and the status of a link. -/
theorem chosen_ofRule (ruleId : String) (status : LinkStatus) :
    chosen [Filter.isText "ruleID" ruleId, Filter.isText "status" status.text] link.members = true ↔
      link.ruleId = ruleId ∧ link.status = status := by
  -- Each condition reads one field of the document, and statuses are equal if their texts are.
  rw [chosen_isText _ link.field_ruleId, chosen_isText _ link.field_status]
  simp [LinkStatus.text_inj]

/-- The conditions of a claim see the identifier and the status of a link. -/
theorem chosen_named (ids : List String) (status : LinkStatus) :
    chosen [Filter.isOneOf "id" ids, Filter.isText "status" status.text] link.members = true ↔
      link.id ∈ ids ∧ link.status = status := by
  -- A claim does not ask for the rule: that its links are of the rule is known by their identifiers.
  rw [chosen_isOneOf _ link.field_id, chosen_isText _ link.field_status]
  simp [LinkStatus.text_inj]

/-- The conditions of the last read of a lease see its identifier, worker and status. -/
theorem chosen_held (ids : List String) (worker : String) (status : LinkStatus) :
    chosen [Filter.isOneOf "id" ids, Filter.isText "worker" worker,
        Filter.isText "status" status.text] link.members = true ↔
      link.id ∈ ids ∧ link.worker = worker ∧ link.status = status := by
  -- Each condition looks at one field.
  rw [chosen_isOneOf _ link.field_id, chosen_isText _ link.field_worker,
    chosen_isText _ link.field_status]
  simp [LinkStatus.text_inj]

/-- The conditions of a completion see the identifier of a link and whether it is open. -/
theorem chosen_open (ids : List String) :
    chosen [Filter.isOneOf "id" ids,
        Filter.isOneOf "status" [LinkStatus.running.text, LinkStatus.active.text]] link.members = true ↔
      link.id ∈ ids ∧ (link.status = .running ∨ link.status = .active) := by
  rw [chosen_isOneOf _ link.field_id, chosen_isOneOf _ link.field_status]
  simp [LinkStatus.text_inj]

/-- The conditions of a cancellation see the rule of a link and whether it is completed. -/
theorem chosen_incomplete (ruleId : String) :
    chosen [Filter.isText "ruleID" ruleId,
        Filter.isNotText "status" LinkStatus.completed.text] link.members = true ↔
      link.ruleId = ruleId ∧ link.status ≠ .completed := by
  rw [chosen_isText _ link.field_ruleId, chosen_isNotText _ link.field_status]
  simp [LinkStatus.text_inj]

/-- The conditions under which leases are taken back see whether a link is leased, and since when. -/
theorem chosen_stale (bound : Int) :
    chosen [Filter.isText "status" LinkStatus.running.text, ("lastUpdate", .lt (.int bound))]
        link.members = true ↔
      link.status = .running ∧ (Json.int link.updated).compare? (.int bound) = some .lt := by
  -- How two times compare as numbers is left open: it decides which leases go, not what becomes of them.
  rw [chosen_isText _ link.field_status, chosen_cons, link.field_updated]
  simp only [LinkStatus.text_inj, Condition.holds, chosen_nil, Bool.and_true, beq_iff_eq]

end Link

namespace Rule

open Lease Store

/-- The numbers and times of a rule lie in the ranges that its document has room for. -/
structure Fits (rule : Rule) : Prop where
  priority : -2147483648 ≤ rule.priority ∧ rule.priority < 2147483648
  totalPages : rule.totalPages < Word.halfBound
  frequency : rule.frequency < Word.bound
  updated : Record.IsTime rule.updated
  generated : ∀ time ∈ rule.generated, Record.IsTime time

/-- The members of a rule's document. -/
def members (rule : Rule) : Fields :=
  rule.toJson.fields

/-- The fragments of a listing are read back from a list of texts. -/
theorem fragments?_array (fragments : List String) :
    fragments? (Json.array (fragments.map .string)) = some fragments := by
  -- Each item is a text, so that reading them one after the other gives them all.
  have words : (fragments.map Json.string).mapM Record.word? = some fragments := by
    induction fragments with
    | nil => rfl
    | cons fragment rest ih =>
      simp only [Record.word?] at ih
      simp [Record.word?, Json.string?, ih]
  simpa [fragments?, Record.isNull, Record.word?, Record.items?, Json.string?] using words

/-- The time of the last generation, if there is one, stands behind all other members. -/
theorem members_eq (rule : Rule) :
    rule.members = { rule with generated := none }.members ++
      (rule.generated.map fun time => ("lastGenerated", Json.int time)).toList := by
  -- Only the time of the last generation decides how many members there are.
  obtain ⟨_, _, _, _, _, _, _, _, _, _, _, _, generated⟩ := rule
  cases generated <;> rfl

/-- All fields but the last one are found, and read, as if there had been no generation. -/
theorem read?_members {rule : Rule} {names : List String} {missing result : α}
    {value? : Json → Option α} {value : Json} (other : names.contains "lastGenerated" = false)
    (found : Record.field? names { rule with generated := none }.members = some (some value))
    (readable : value? value = some result) :
    Record.read? names missing value? rule.members = some result := by
  -- The member behind the others has another name, so that a search passes over it.
  have behind : ((rule.generated.map fun time => ("lastGenerated", Json.int time)).toList.filter
      fun member => names.contains member.1) = [] := by
    cases rule.generated <;> simp_all
  refine Record.read?_eq ?_ readable
  rw [← found, members_eq rule, Record.field?, List.filter_append, behind, List.append_nil]
  rfl

/-- A rule is read back from its document. -/
theorem ofJson?_members {rule : Rule} (fits : rule.Fits) (now : Int) :
    ofJson? now (.object rule.members) = some rule := by
  -- Each field but the last is found whatever the last one is, and lies in the range of its reader.
  have id : Record.read? ["id"] "" Record.text? rule.members = some rule.id :=
    read?_members rfl rfl rfl
  have name : Record.read? ["name"] "" Record.text? rule.members = some rule.name :=
    read?_members rfl rfl rfl
  have status : Record.read? ["status"] RuleStatus.active
      (Record.choice? [("Active", RuleStatus.active), ("Cancelled", .cancelled)]) rule.members =
        some rule.status :=
    read?_members rfl rfl (by cases rule.status <;> rfl)
  have pattern : Record.read? ["pattern"] "" Record.text? rule.members = some rule.pattern :=
    read?_members rfl rfl rfl
  have priority : Record.read? ["priority", "priorty"] 0 (Record.int? (-2147483648) 2147483648)
      rule.members = some rule.priority :=
    read?_members rfl rfl (if_pos fits.priority)
  have target : Record.read? ["targetLocation"] "" Record.text? rule.members = some rule.target :=
    read?_members rfl rfl rfl
  have linkPattern : Record.read? ["linkPattern"] "" Record.text? rule.members =
      some rule.linkPattern :=
    read?_members rfl rfl rfl
  have fragments : Record.read? ["deepLinkPattern", "deeplinkPatterns"] [] fragments? rule.members =
      some rule.fragments :=
    read?_members rfl rfl (fragments?_array rule.fragments)
  have totalPages : Record.read? ["totalPages"] 0 (Record.nat? Word.halfBound) rule.members =
      some rule.totalPages :=
    read?_members rfl rfl (Record.nat?_int fits.totalPages)
  have headers : Record.read? ["headers"] "" Record.text? rule.members = some rule.headers :=
    read?_members rfl rfl rfl
  have frequency : Record.read? ["frequency"] 0 (Record.nat? Word.bound) rule.members =
      some rule.frequency :=
    read?_members rfl rfl (Record.nat?_int fits.frequency)
  have updated : Record.read? ["lastUpdate"] now Record.time? rule.members = some rule.updated :=
    read?_members rfl rfl (Record.time?_int fits.updated)
  -- Only the last field may be missing, and then nothing is read for it.
  have generated : Record.read? ["lastGenerated"] none (Record.optional? Record.time?) rule.members =
      some rule.generated := by
    obtain ⟨_, _, _, _, _, _, _, _, _, _, _, _, generated⟩ := rule
    cases generated with
    | none => rfl
    | some time =>
      exact Record.read?_eq rfl
        (congrArg (Option.map some) (Record.time?_int (fits.generated time rfl)))
  -- The fields are read in the order in which the rule is put together.
  refine Record.read_then rfl (Record.read_then id (Record.read_then name (Record.read_then status ?_)))
  refine Record.read_then pattern (Record.read_then priority (Record.read_then target ?_))
  refine Record.read_then linkPattern (Record.read_then fragments (Record.read_then totalPages ?_))
  refine Record.read_then headers (Record.read_then frequency (Record.read_then updated ?_))
  exact Record.read_then generated rfl

variable (rule : Rule)

/-- Cancelling a rule's document is cancelling the rule. -/
theorem members_extend_cancelled (now : Int) :
    rule.members.extend [("status", .string RuleStatus.cancelled.text), ("lastUpdate", .int now)] =
      { rule with status := .cancelled, updated := now }.members := by
  -- Both members are there already, so that they are replaced in their places.
  simp [members, toJson, Json.fields, Fields.extend, Fields.insert]

/-- Dating a rule's document is setting the time of its last generation. -/
theorem members_extend_generated (now : Int) :
    rule.members.extend [("lastGenerated", .int now)] =
      { rule with generated := some now }.members := by
  -- The member is put behind all others if it is new, and replaced in its place if it is not.
  obtain ⟨_, _, _, _, _, _, _, _, _, _, _, _, generated⟩ := rule
  cases generated <;> rfl

/-- The rule in the place of an older one, whose last generation it keeps if it tells none itself. -/
def replacing (old : Rule) : Rule :=
  { rule with generated := rule.generated <|> old.generated }

/-- Extending an older document by a rule's is replacing the older rule. -/
theorem members_extend_members (old : Rule) :
    old.members.extend rule.members = (rule.replacing old).members := by
  -- All members but the last one are there on both sides; the last one is new, replaced, kept or missing.
  obtain ⟨_, _, _, _, _, _, _, _, _, _, _, _, generated⟩ := rule
  obtain ⟨_, _, _, _, _, _, _, _, _, _, _, _, oldGenerated⟩ := old
  cases generated <;> cases oldGenerated <;>
    simp [members, toJson, replacing, Json.fields, Fields.extend, Fields.insert]

/-- The document tells the name of the rule. -/
theorem field_id : (Json.object rule.members).field "id" = .string rule.id :=
  rfl

/-- A condition on the identifier sees the one of the rule. -/
theorem chosen_id (id : String) :
    chosen [Filter.isText "id" id] rule.members = true ↔ rule.id = id := by
  -- There is no further condition.
  rw [chosen_isText _ rule.field_id]
  simp

/-- The document tells the status of the rule. -/
theorem field_status : (Json.object rule.members).field "status" = .string rule.status.text :=
  rfl

/-- A condition on the status sees the one of the rule. -/
theorem chosen_status (status : RuleStatus) :
    chosen [Filter.isText "status" status.text] rule.members = true ↔ rule.status = status := by
  rw [chosen_isText _ rule.field_status]
  simp [RuleStatus.text_inj]

end Rule

end Harvest

import Harvest.Proofs.Lease.Documents
import Harvest.Proofs.Text.Splitting
import Harvest.Proofs.Text.Trimming
import Mathlib.Data.List.Forall2

/-! Documents of older kinds. A field may go by another name, and the fragments of a rule may come as one text or as
nothing at all. Such documents are read as the records that they are variants of. -/

namespace Harvest

namespace Record

/-- Two names of one field: the same one, or two of those that a field goes by. -/
def SameField (fields : List (List String)) (name other : String) : Prop :=
  name = other ∨ ∃ names ∈ fields, name ∈ names ∧ other ∈ names

/-- Each of the fields is sought by all of its names or by none. -/
def SeeksWhole (fields : List (List String)) (sought : List String) : Prop :=
  ∀ names ∈ fields, (∀ one ∈ names, one ∈ sought) ∨ ∀ one ∈ names, one ∉ sought

instance (fields : List (List String)) (sought : List String) : Decidable (SeeksWhole fields sought) :=
  inferInstanceAs (Decidable (∀ names ∈ fields, (∀ one ∈ names, one ∈ sought) ∨ ∀ one ∈ names, one ∉ sought))

/-- Two names of one field are both sought or both not. -/
theorem SameField.mem_iff {fields : List (List String)} {name other : String} (same : SameField fields name other)
    {sought : List String} (whole : SeeksWhole fields sought) : name ∈ sought ↔ other ∈ sought := by
  -- Two different names are names of one field.
  rcases same with rfl | ⟨names, known, named, named'⟩
  · rfl
  · rcases whole names known with all | none_
    · exact iff_of_true (all name named) (all other named')
    · exact iff_of_false (none_ name named) (none_ other named')

section Congruence

variable {α : Type} {names : List String} {missing : α} {value? : Json → Option α}
  {members others : List (String × Json)}

/-- The member and the other one are read alike, if they are sought. -/
def ReadAlike (names : List String) (value? : Json → Option α) (member other : String × Json) : Prop :=
  (member.1 ∈ names ↔ other.1 ∈ names) ∧ (member.1 ∈ names → value? member.2 = value? other.2)

/-- Members that are read alike leave such that are, when those of a field are picked out. -/
theorem filter_alike (alike : List.Forall₂ (ReadAlike names value?) members others) :
    List.Forall₂ (fun member other => value? member.2 = value? other.2)
      (members.filter fun member => names.contains member.1) (others.filter fun member => names.contains member.1) := by
  -- By the members, two of which are both of the field or both not.
  induction alike with
  | nil => exact .nil
  | @cons member other _ _ here later ih =>
    obtain ⟨sought, read⟩ := here
    by_cases named : member.1 ∈ names
    · have named' := sought.mp named
      simp only [List.filter_cons, List.contains_iff_mem, named, named', if_true]
      exact .cons (read named) ih
    · have named' := mt sought.mpr named
      simpa only [List.filter_cons, List.contains_iff_mem, named, named', if_false] using ih

/-- A field is found on both sides or on none, and its values are read alike. -/
theorem field?_alike (alike : List.Forall₂ (ReadAlike names value?) members others) :
    Option.Rel (Option.Rel fun value other => value? value = value? other) (field? names members)
      (field? names others) := by
  have kept := filter_alike alike
  unfold field?
  generalize members.filter _ = found, others.filter _ = found' at kept
  -- It is missing, there once, or there too often.
  rcases kept with _ | ⟨same, _ | ⟨-, -⟩⟩
  · exact .some .none
  · exact .some (.some same)
  · exact .none

/-- What is made of a field by reading its value is the same for members that are read alike. -/
theorem bind_field?_alike (alike : List.Forall₂ (ReadAlike names value?) members others) {made : Option Json → Option α}
    (reads : ∀ value, made (some value) = value? value) :
    (field? names members >>= made) = (field? names others >>= made) := by
  -- The field is found in both, or in neither.
  have found := field?_alike alike
  generalize field? names members = one, field? names others = other at found
  rcases found with (same | _) | _
  · exact (reads _).trans (same.trans (reads _).symm)
  · rfl
  · rfl

/-- A field is read alike from members that are. -/
theorem read?_congr (alike : List.Forall₂ (ReadAlike names value?) members others) :
    read? names missing value? members = read? names missing value? others :=
  bind_field?_alike alike fun _ => rfl

/-- Reading goes on alike with what was read alike. -/
theorem bind_alike {β : Type} {found found' : Option α} (same : found = found') {next next' : α → Option β}
    (rest : ∀ value, next value = next' value) : (found >>= next) = (found' >>= next') := by
  rw [same, funext rest]

/-- A field that must be there is read alike from members that are. -/
theorem require?_congr (alike : List.Forall₂ (ReadAlike names value?) members others) :
    require? names value? members = require? names value? others :=
  bind_field?_alike alike fun _ => rfl

end Congruence

end Record

namespace Rule

/-- The fields of a rule that go by several names. -/
def aliases : List (List String) :=
  [["priority", "priorty"], ["deepLinkPattern", "deeplinkPatterns"]]

/-- A value and the fragments that it stands for. -/
inductive Fragments : Json → List String → Prop
  | null : Fragments .null []
  | list (fragments : List String) : Fragments (.array (fragments.map .string)) fragments
  /-- A text of white space stands for no fragments. -/
  | blank {text : String} (white : ∀ c ∈ text.toList, c ∈ Text.whiteSpace) : Fragments (.string text) []
  /-- Any other text is cut at its commas. -/
  | joined {text : String} {pieces : List (List Char)} (filled : ¬ ∀ c ∈ text.toList, c ∈ Text.whiteSpace)
      (cut : Text.Cut [','] text.toList pieces) : Fragments (.string text) (pieces.map String.ofList)

/-- A text is blank if all of its characters are white space. -/
theorem allBlank_iff {text : String} :
    Text.allBlank text.toList = true ↔ ∀ c ∈ text.toList, c ∈ Text.whiteSpace := by
  simp only [Text.allBlank, List.all_eq_true, Text.isBlank_iff]

/-- Texts in a list are read one after the other. -/
theorem mapM_word?_strings (fragments : List String) :
    (fragments.map Json.string).mapM (Record.word? : Json → Option String) = some fragments := by
  -- By the fragments, each of which is a text.
  induction fragments with
  | nil => rfl
  | cons fragment rest ih =>
    rw [List.map_cons, List.mapM_cons, ih]
    rfl

/-- The fragments that a value stands for are read from it. -/
theorem Fragments.read {value : Json} {fragments : List String} (stands : Fragments value fragments) :
    fragments? value = some fragments := by
  -- By the form of the value. There is one way only to cut a text.
  cases stands with
  | null => rfl
  | list => exact mapM_word?_strings fragments
  | @blank text white =>
    change (if Text.allBlank text.toList = true then some [] else some _) = some []
    rw [if_pos (allBlank_iff.mpr white)]
  | @joined text pieces filled cut =>
    change (if Text.allBlank text.toList = true then some []
      else some ((Text.splitAtChar ',' text.toList).map String.ofList)) = _
    rw [if_neg (mt allBlank_iff.mp filled), cut.unique (Text.cut_splitAtChar ',' _)]

/-- Two members tell the same of a rule: those of one field, with the same value or with values that stand for the same
fragments. -/
def SameMember (member other : String × Json) : Prop :=
  Record.SameField aliases member.1 other.1 ∧
    (member.2 = other.2 ∨ member.1 ∈ ["deepLinkPattern", "deeplinkPatterns"] ∧
      ∃ fragments, Fragments member.2 fragments ∧ Fragments other.2 fragments)

/-- A member is read like another one that tells the same. -/
theorem SameMember.readAlike {α : Type} {names : List String} {value? : Json → Option α} {member other : String × Json}
    (same : SameMember member other) (whole : Record.SeeksWhole aliases names)
    (forms : ∀ name ∈ ["deepLinkPattern", "deeplinkPatterns"], name ∈ names →
      ∀ value value' fragments, Fragments value fragments → Fragments value' fragments → value? value = value? value') :
    Record.ReadAlike names value? member other := by
  -- The values are equal, or stand for the same fragments.
  obtain ⟨field, equal | ⟨named, fragments, stands, stands'⟩⟩ := same
  · exact ⟨field.mem_iff whole, fun _ => by rw [equal]⟩
  · exact ⟨field.mem_iff whole, fun sought => forms _ named sought _ _ fragments stands stands'⟩

/-- Documents whose members tell the same are read as the same rule, or refused alike. -/
theorem ofJson?_congr {members others : List (String × Json)} (alike : List.Forall₂ SameMember members others)
    (now : Int) : ofJson? now (.object members) = ofJson? now (.object others) := by
  -- A field of its own is not among the fragments, whose forms are read alike.
  have plain {α : Type} (names : List String) (missing : α) (value? : Json → Option α)
      (whole : Record.SeeksWhole aliases names)
      (foreign : ∀ name ∈ ["deepLinkPattern", "deeplinkPatterns"], name ∉ names) :
      Record.read? names missing value? members = Record.read? names missing value? others :=
    Record.read?_congr (alike.imp fun _ _ same => same.readAlike whole fun name known sought =>
      absurd sought (foreign name known))
  have fragments : Record.read? ["deepLinkPattern", "deeplinkPatterns"] [] fragments? members =
      Record.read? ["deepLinkPattern", "deeplinkPatterns"] [] fragments? others :=
    Record.read?_congr (alike.imp fun _ _ same => same.readAlike (by decide) fun _ _ _ _ _ _ stands stands' =>
      stands.read.trans stands'.read.symm)
  -- The fields are read in the order in which the rule is put together.
  change (Option.some members >>= _) = (Option.some others >>= _)
  rw [Option.bind_eq_bind, Option.bind_eq_bind, Option.bind_some, Option.bind_some]
  refine Record.bind_alike (plain ["id"] _ _ (by decide) (by decide)) fun id => ?_
  refine Record.bind_alike (plain ["name"] _ _ (by decide) (by decide)) fun name => ?_
  refine Record.bind_alike (plain ["status"] _ _ (by decide) (by decide)) fun status => ?_
  refine Record.bind_alike (plain ["pattern"] _ _ (by decide) (by decide)) fun pattern => ?_
  refine Record.bind_alike (plain ["priority", "priorty"] _ _ (by decide) (by decide)) fun priority => ?_
  refine Record.bind_alike (plain ["targetLocation"] _ _ (by decide) (by decide)) fun target => ?_
  refine Record.bind_alike (plain ["linkPattern"] _ _ (by decide) (by decide)) fun linkPattern => ?_
  refine Record.bind_alike fragments fun fragments => ?_
  refine Record.bind_alike (plain ["totalPages"] _ _ (by decide) (by decide)) fun totalPages => ?_
  refine Record.bind_alike (plain ["headers"] _ _ (by decide) (by decide)) fun headers => ?_
  refine Record.bind_alike (plain ["frequency"] _ _ (by decide) (by decide)) fun frequency => ?_
  refine Record.bind_alike (plain ["lastUpdate"] _ _ (by decide) (by decide)) fun updated => ?_
  exact Record.bind_alike (plain ["lastGenerated"] _ _ (by decide) (by decide)) fun generated => rfl

end Rule

namespace Link

/-- The fields of a link that go by several names. -/
def aliases : List (List String) :=
  [["worker", "scraper"]]

/-- Two members tell the same of a link: those of one field, with the same value. -/
def SameMember (member other : String × Json) : Prop :=
  Record.SameField aliases member.1 other.1 ∧ member.2 = other.2

/-- Documents whose members tell the same are read as the same link, or refused alike. -/
theorem ofJson?_congr {members others : List (String × Json)} (alike : List.Forall₂ SameMember members others)
    (now : Int) : ofJson? now (.object members) = ofJson? now (.object others) := by
  -- Each field is read from members of the same values.
  have readAlike {α : Type} (names : List String) (value? : Json → Option α)
      (whole : Record.SeeksWhole aliases names) :
      List.Forall₂ (Record.ReadAlike names value?) members others :=
    alike.imp fun _ _ same => ⟨same.1.mem_iff whole, fun _ => by rw [same.2]⟩
  have required {α : Type} (names : List String) (value? : Json → Option α)
      (whole : Record.SeeksWhole aliases names) :
      Record.require? names value? members = Record.require? names value? others :=
    Record.require?_congr (readAlike names value? whole)
  have read {α : Type} (names : List String) (missing : α) (value? : Json → Option α)
      (whole : Record.SeeksWhole aliases names) :
      Record.read? names missing value? members = Record.read? names missing value? others :=
    Record.read?_congr (readAlike names value? whole)
  change (Option.some members >>= _) = (Option.some others >>= _)
  rw [Option.bind_eq_bind, Option.bind_eq_bind, Option.bind_some, Option.bind_some]
  refine Record.bind_alike (required ["id"] _ (by decide)) fun id => ?_
  refine Record.bind_alike (required ["link"] _ (by decide)) fun url => ?_
  refine Record.bind_alike (read ["status"] _ _ (by decide)) fun status => ?_
  refine Record.bind_alike (read ["worker", "scraper"] _ _ (by decide)) fun worker => ?_
  refine Record.bind_alike (required ["ruleID"] _ (by decide)) fun ruleId => ?_
  exact Record.bind_alike (read ["lastUpdate"] _ _ (by decide)) fun updated => rfl

end Link

end Harvest

import Harvest.Proofs.Pattern.Meaning

/-! The texts in a record. An extracted value is never empty; only the value from the listing page can be, where it
takes the place of an extracted one. So a record has an empty text exactly if that value is empty and taken over. -/

namespace Harvest

namespace Json

/-- The text stands somewhere inside the value. -/
inductive Leaf (text : String) : Json → Prop
  | string : Leaf text (.string text)
  | item {items : List Json} {item : Json} (among : item ∈ items) (inside : Leaf text item) :
      Leaf text (.array items)
  | member {members : List (String × Json)} {member : String × Json} (among : member ∈ members)
      (inside : Leaf text member.2) : Leaf text (.object members)

/-- Every text inside the value is one of those accepted. -/
def EveryLeaf (accepted : String → Prop) (value : Json) : Prop :=
  ∀ text, value.Leaf text → accepted text

variable {accepted : String → Prop}

/-- A text has itself inside only. -/
theorem everyLeaf_string {text : String} (good : accepted text) : (string text).EveryLeaf accepted := by
  rintro _ ⟨⟩
  exact good

/-- Nothing stands inside an object without members. -/
theorem everyLeaf_nil : (object []).EveryLeaf accepted := by
  rintro text (_ | _ | ⟨among, -⟩)
  cases among

/-- What stands inside an object stood there before one of its members was given a value, or inside that value. -/
theorem everyLeaf_insert {fields : Fields} {name : String} {value : Json} (old : (object fields).EveryLeaf accepted)
    (new : value.EveryLeaf accepted) : (object (fields.insert name value)).EveryLeaf accepted := by
  -- A member of the new object was there before, or is the one put in.
  rintro text (_ | _ | ⟨among, inside⟩)
  rcases Fields.mem_of_mem_insert among with before | rfl
  · exact old text (.member before inside)
  · exact new text inside

/-- The text of a member stands inside its object. -/
theorem leaf_of_get? {fields : Fields} {name text : String} (told : (fields.get? name).bind string? = some text) :
    (object fields).Leaf text := by
  -- A text that is found under a name is the value of a member.
  obtain ⟨value, found, isText⟩ := Option.bind_eq_some_iff.mp told
  cases value with
  | string other =>
    obtain rfl := Option.some.inj isText
    obtain ⟨before, after, rfl, -⟩ := List.lookup_eq_some_iff.mp found
    exact .member (List.mem_append_right before List.mem_cons_self) .string
  | _ => cases isText

end Json

namespace Pattern

variable {Element : Type} {view : View Element} {parentValue : String} {accepted : String → Prop}

/-- Somewhere in the pattern the value from the listing page takes the place of an extracted one. -/
inductive TakesOver : Pattern → Prop
  | value {source : String} {selector : Selector} {wanted : ValueSource} {cleanups : List Cleanup}
      {equation : Equation} {inner : Option Pattern} :
      TakesOver (.selection source selector (some wanted) cleanups (some ⟨equation, .parentValue⟩) inner)
  | inner {source : String} {selector : Selector} {value : Option ValueSource} {cleanups : List Cleanup}
      {validation : Option Validation} {pattern : Pattern} (taken : TakesOver pattern) :
      TakesOver (.selection source selector value cleanups validation (some pattern))
  | member {members : List (String × Pattern)} {member : String × Pattern} (among : member ∈ members)
      (taken : TakesOver member.2) : TakesOver (.group members)

/-- The text that is written down for a value of use is not empty, unless the one from the listing page takes its
place. -/
theorem Written.isAccepted (filled : ∀ text, text ≠ "" → accepted text) {wanted : ValueSource}
    {cleanups : List Cleanup} {validation : Option Validation} {element : Element} {text : String}
    (carried : ∀ equation, validation = some ⟨equation, .parentValue⟩ → accepted parentValue)
    (useful : Usable view wanted cleanups validation parentValue element)
    (written : Written view wanted cleanups parentValue element validation text) : accepted text := by
  -- A value of use is not empty once it is cleaned.
  cases written with
  | value has stays =>
    rw [hasValue_iff.mp has]
    exact filled _ (usable_iff.mp useful).1
  | parentValue => exact carried _ rfl

/-- Collected records have the texts of the single ones inside. -/
theorem collect_everyLeaf {run : Element → Evaluation}
    (each : ∀ element fields, run element = .record fields → (Json.object fields).EveryLeaf accepted)
    (found : List Element) (index : Nat) {fields result : Fields} (old : (Json.object fields).EveryLeaf accepted)
    (collected : collect run index fields found = .record result) : (Json.object result).EveryLeaf accepted := by
  -- By the matches, whose records are put in one after the other.
  induction found generalizing index fields with
  | nil =>
    rw [collect] at collected
    rwa [eq_of_ofFields collected]
  | cons element rest ih =>
    rw [collect] at collected
    cases outcome : run element with
    | record inner =>
      simp only [outcome] at collected
      exact ih (index + 1) (Json.everyLeaf_insert old (each element inner outcome)) collected
    | wrongPage => simp [outcome] at collected
    | invalid => simp [outcome] at collected

mutual

/-- All texts of a record are accepted if those that are not empty are, and the value from the listing page where it
is taken over. -/
theorem evaluate_everyLeaf (view : View Element) (parentValue : String)
    (filled : ∀ text, text ≠ "" → accepted text) :
    (pattern : Pattern) → (pattern.TakesOver → accepted parentValue) → (scope : Element) → {result : Fields} →
      pattern.evaluate view parentValue scope = .record result → (Json.object result).EveryLeaf accepted
  -- The recursion is that of the evaluation, and a selection is told by its first match.
  | .selection source selector value cleanups validation inner, carried, scope, result, evaluated => by
    have inside : ∀ pattern ∈ inner, pattern.TakesOver → accepted parentValue := by
      rintro pattern ⟨⟩ taken
      exact carried (.inner taken)
    rw [evaluate] at evaluated
    cases found : view.select scope selector with
    | nil => simp [found] at evaluated
    | cons first rest =>
      cases value with
      | none =>
        simp only [found] at evaluated
        exact evaluateInner_everyLeaf view parentValue filled inner inside _ Json.everyLeaf_nil evaluated
      | some wanted =>
        -- Without a value of use there is no record.
        by_cases useful : Usable view wanted cleanups validation parentValue first
        · obtain ⟨text, taken, written⟩ := exists_valueOf? useful
          simp only [found, taken, Option.map_some] at evaluated
          have good : accepted text := by
            refine written.isAccepted filled ?_ useful
            rintro equation rfl
            exact carried .value
          exact evaluateInner_everyLeaf view parentValue filled inner inside _
            (Json.everyLeaf_insert Json.everyLeaf_nil (Json.everyLeaf_string good)) evaluated
        · simp [found, valueOf?_of_not_usable useful] at evaluated
  | .group members, carried, scope, result, evaluated => by
    rw [evaluate] at evaluated
    exact evaluateMembers_everyLeaf view parentValue filled members (fun _ among taken => carried (.member among taken))
      scope Json.everyLeaf_nil evaluated

/-- The records of an inner pattern add accepted texts to the fields found before. -/
theorem evaluateInner_everyLeaf (view : View Element) (parentValue : String)
    (filled : ∀ text, text ≠ "" → accepted text) :
    (inner : Option Pattern) → (∀ pattern ∈ inner, pattern.TakesOver → accepted parentValue) →
      (found : List Element) → {fields result : Fields} → (Json.object fields).EveryLeaf accepted →
      evaluateInner view parentValue inner fields found = .record result → (Json.object result).EveryLeaf accepted
  -- Without an inner pattern there are only the fields from before.
  | none, carried, found, fields, result, old, evaluated => by
    rw [evaluateInner] at evaluated
    rwa [eq_of_ofFields evaluated]
  | some inner, carried, found, fields, result, old, evaluated => by
    rw [evaluateInner] at evaluated
    have each := evaluate_everyLeaf view parentValue filled inner (carried inner rfl)
    exact collect_everyLeaf (fun element _ => each element) found 0 old evaluated

/-- The records of the members add accepted texts to the fields found before. -/
theorem evaluateMembers_everyLeaf (view : View Element) (parentValue : String)
    (filled : ∀ text, text ≠ "" → accepted text) :
    (members : List (String × Pattern)) → (∀ member ∈ members, member.2.TakesOver → accepted parentValue) →
      (scope : Element) → {fields result : Fields} → (Json.object fields).EveryLeaf accepted →
      evaluateMembers view parentValue members scope fields = .record result →
        (Json.object result).EveryLeaf accepted
  -- The recursion is that of the evaluation, with what is done already as its fields.
  | [], carried, scope, fields, result, old, evaluated => by
    rw [evaluateMembers] at evaluated
    rwa [eq_of_ofFields evaluated]
  | (name, member) :: rest, carried, scope, fields, result, old, evaluated => by
    obtain ⟨here, later⟩ := List.forall_mem_cons.mp carried
    rw [evaluateMembers] at evaluated
    cases outcome : member.evaluate view parentValue scope with
    | record inner =>
      simp only [outcome] at evaluated
      have new := evaluate_everyLeaf view parentValue filled member here scope outcome
      exact evaluateMembers_everyLeaf view parentValue filled rest later scope (Json.everyLeaf_insert old new) evaluated
    | wrongPage => simp [outcome] at evaluated
    | invalid => simp [outcome] at evaluated

end

/-- The record of a member is filed under its name. -/
theorem PrescribedMembers.exists_of_mem {members : List (String × Pattern)} {scope : Element} {fields : Fields}
    (each : PrescribedMembers view parentValue members scope fields) {member : String × Pattern}
    (among : member ∈ members) :
    ∃ own, Prescribed view parentValue member.2 scope own ∧ (member.1, Json.object own) ∈ fields := by
  -- By the members, each of which has its own field.
  induction members generalizing fields with
  | nil => cases among
  | cons first rest ih =>
    obtain _ | ⟨here, later⟩ := each
    rcases List.mem_cons.mp among with rfl | behind
    · exact ⟨_, here, List.mem_cons_self⟩
    · obtain ⟨own, prescribed, filed⟩ := ih later behind
      exact ⟨own, prescribed, List.mem_cons_of_mem _ filed⟩

/-- Where the value from the listing page is taken over, it stands in the fields that are prescribed. -/
theorem leaf_of_takesOver {pattern : Pattern} (taken : pattern.TakesOver) {scope : Element} {fields : Fields}
    (prescribed : Prescribed view parentValue pattern scope fields) : (Json.object fields).Leaf parentValue := by
  -- Every node of the pattern has a match there, so that the one in question is applied somewhere.
  induction taken generalizing scope fields with
  | value =>
    obtain ⟨found, _ | written, each⟩ := prescribed
    cases written with
    | value has stays => cases stays _ rfl
    | parentValue => exact .member (List.mem_append_left _ List.mem_cons_self) .string
  | inner taken ih =>
    obtain ⟨found, own, _ | _ | ⟨here, later⟩⟩ := prescribed
    exact .member (List.mem_append_right _ List.mem_cons_self) (ih here)
  | member among taken ih =>
    obtain _ | each := prescribed
    obtain ⟨own, inside, filed⟩ := each.exists_of_mem among
    exact .member filed (ih inside)

/-- No text of a record is empty, unless the value from the listing page is empty and taken over; and if it is, then
an empty text stands in the record of a pattern whose members have distinct names. -/
theorem leaves_filled {pattern : Pattern} {scope : Element} {fields : Fields}
    (evaluated : pattern.evaluate view parentValue scope = .record fields) :
    (parentValue ≠ "" ∨ ¬pattern.TakesOver → ∀ text, (Json.object fields).Leaf text → text ≠ "") ∧
      (pattern.NamesDiffer → pattern.TakesOver → parentValue = "" → (Json.object fields).Leaf "") := by
  -- An empty text can only come from the listing page, and there it is found by what is prescribed.
  constructor
  · intro fine
    refine evaluate_everyLeaf view parentValue (fun _ => id) pattern (fun taken => ?_) scope evaluated
    exact fine.resolve_right (not_not_intro taken)
  · rintro differ taken rfl
    exact leaf_of_takesOver taken (prescribed_of_evaluate view "" pattern differ scope evaluated)

/-- A pattern for a colour that must not be the one from the listing page, and gives way to that one. -/
def otherColour : String :=
  "\x7b\"pattern\": \"p\", \"value\": \"text\", \"validation\": " ++
    "\x7b\"equation\": \"value != parentValue\", \"targetValue\": \"parentValue\"\x7d\x7d"

/-- The text that a pattern finds on a page for its own value. -/
def ownText (parentValue : String) (pattern : Pattern) (root : Markup.Element) : Option String :=
  ((pattern.evaluate documentView parentValue root).fields.get? "value").bind Json.string?

/-- An evaluation with a text of its own is a record that has this text. -/
theorem record_of_ownText {parentValue text : String} {pattern : Pattern} {root : Markup.Element}
    (told : ownText parentValue pattern root = some text) :
    ∃ fields, pattern.evaluate documentView parentValue root = .record fields ∧ (Json.object fields).Leaf text := by
  -- Any other outcome has no fields to look the text up in.
  have leaf := Json.leaf_of_get? told
  cases outcome : pattern.evaluate documentView parentValue root with
  | record fields => exact ⟨fields, rfl, by rwa [outcome] at leaf⟩
  | wrongPage => simp [ownText, outcome, Evaluation.fields, Fields.get?] at told
  | invalid => simp [ownText, outcome, Evaluation.fields, Fields.get?] at told

/-- With a colour from the listing page, the record of another colour has this one, and no empty text. -/
theorem leaves_filled_otherColour :
    ∃ pattern root fields, parse otherColour = .ok pattern ∧
      Markup.Element.root? (Markup.parseDocument "<p>Red</p>") = some root ∧
      pattern.evaluate documentView "Blue" root = .record fields ∧ (Json.object fields).Leaf "Blue" ∧
      ∀ text, (Json.object fields).Leaf text → text ≠ "" := by
  -- The sample is run for the text, and the general result says that no text is empty.
  obtain ⟨pattern, root, read, found, told⟩ := exists_read otherColour "<p>Red</p>" (ownText "Blue") (some "Blue")
    (by decide +kernel)
  obtain ⟨fields, evaluated, leaf⟩ := record_of_ownText told
  exact ⟨pattern, root, fields, read, found, evaluated, leaf, (leaves_filled evaluated).1 (.inl (by decide))⟩

/-- Without a colour from the listing page, the same pattern finds a record with an empty text on the same page. -/
theorem otherColour_empty :
    ∃ pattern root fields, parse otherColour = .ok pattern ∧
      Markup.Element.root? (Markup.parseDocument "<p>Red</p>") = some root ∧
      pattern.evaluate documentView "" root = .record fields ∧ (Json.object fields).Leaf "" := by
  -- Nothing is left of the colour on the page once the other one has taken its place.
  obtain ⟨pattern, root, read, found, told⟩ := exists_read otherColour "<p>Red</p>" (ownText "") (some "")
    (by decide +kernel)
  obtain ⟨fields, evaluated, leaf⟩ := record_of_ownText told
  exact ⟨pattern, root, fields, read, found, evaluated, leaf⟩

end Pattern

end Harvest

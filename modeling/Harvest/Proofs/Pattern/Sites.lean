import Harvest.Proofs.Equation.Trichotomy
import Harvest.Proofs.Pattern.Cleaning

/-! The places where a pattern is applied, in the order of evaluation: each of its nodes in each scope that
the node is evaluated in. The first place where something is wrong decides how the evaluation fails. -/

namespace Harvest

/-- What can be wrong with a node of a pattern in a scope. -/
inductive Fault where
  /-- The selector has no match. -/
  | missing
  /-- There is no usable value, or nothing to take at all. -/
  | unusable
  deriving DecidableEq, Repr

/-- The fault that an evaluation reports; a record has none. -/
def Evaluation.fault? : Evaluation → Option Fault
  | record _ => none
  | wrongPage => some .missing
  | invalid => some .unusable

/-- The fields of an evaluation; only a record has any. -/
def Evaluation.fields : Evaluation → Fields
  | record fields => fields
  | wrongPage => []
  | invalid => []

/-- An evaluation without a fault is a record. -/
theorem Evaluation.fault?_eq_none_iff {evaluation : Evaluation} :
    evaluation.fault? = none ↔ ∃ fields, evaluation = .record fields := by
  cases evaluation <;> simp [fault?]

/-- An evaluation with a fault has no fields. -/
theorem Evaluation.fields_of_fault? {evaluation : Evaluation} {fault : Fault}
    (reported : evaluation.fault? = some fault) : evaluation.fields = [] := by
  -- Only a record has fields, and it has no fault.
  cases evaluation with
  | record fields => cases reported
  | wrongPage => rfl
  | invalid => rfl

/-- Fields that are not empty are a record. -/
theorem Evaluation.ofFields_of_ne_nil {fields : Fields} (some_ : fields ≠ []) :
    ofFields fields = .record fields := by
  -- Only a record without any field is of no use.
  simp [ofFields, some_]

namespace Pattern

variable {Element : Type}

/-- What is read of an element for a value; an attribute that is not there reads as an empty text. -/
inductive Reads (view : View Element) (element : Element) : ValueSource → String → Prop
  | text : Reads view element .text (view.text element)
  | given {name raw : String} (found : view.attribute? element name = some raw) :
      Reads view element (.attribute name) raw
  | absent {name : String} (missing : view.attribute? element name = none) :
      Reads view element (.attribute name) ""

/-- An element has a value: what is read of it, after all changes. -/
def HasValue (view : View Element) (source : ValueSource) (cleanups : List Cleanup) (element : Element)
    (value : String) : Prop :=
  ∃ raw, Reads view element source raw ∧ Cleans cleanups raw value

/-- The value of an element is of use: it is not empty after all changes, and passes its comparison. -/
def Usable (view : View Element) (source : ValueSource) (cleanups : List Cleanup)
    (validation : Option Validation) (parentValue : String) (element : Element) : Prop :=
  ∃ value, HasValue view source cleanups element value ∧ value ≠ "" ∧
    ∀ check ∈ validation, check.equation.Passes value parentValue

/-- The text that is written down for an element: its value, unless the one from the listing page takes its place. -/
inductive Written (view : View Element) (source : ValueSource) (cleanups : List Cleanup) (parentValue : String)
    (element : Element) : Option Validation → String → Prop
  | value {validation : Option Validation} {text : String} (has : HasValue view source cleanups element text)
      (stays : ∀ check ∈ validation, check.target = .value) :
      Written view source cleanups parentValue element validation text
  | parentValue {equation : Equation} :
      Written view source cleanups parentValue element (some ⟨equation, .parentValue⟩) parentValue

section Value

variable {view : View Element} {source : ValueSource} {cleanups : List Cleanup} {validation : Option Validation}
  {parentValue : String} {element : Element}

/-- One text is read of an element for a value. -/
theorem reads_iff {raw : String} : Reads view element source raw ↔ raw = rawValue view element source := by
  constructor
  · rintro (_ | found | missing)
    · rfl
    · rw [rawValue, found, Option.getD_some]
    · rw [rawValue, missing, Option.getD_none]
  · rintro rfl
    rcases source with _ | name
    · exact .text
    · -- The attribute is there, or it is not.
      rw [rawValue]
      cases found : view.attribute? element name with
      | none => exact .absent found
      | some raw => exact .given found

/-- An element has one value, which is the cleaned text. -/
theorem hasValue_iff {value : String} :
    HasValue view source cleanups element value ↔ value = cleaned cleanups (rawValue view element source) := by
  simp only [HasValue, reads_iff, cleans_iff, exists_eq_left]

/-- Whether a value is of use can be told from the cleaned text. -/
theorem usable_iff : Usable view source cleanups validation parentValue element ↔
    cleaned cleanups (rawValue view element source) ≠ "" ∧
      ∀ check ∈ validation,
        check.equation.evaluate (cleaned cleanups (rawValue view element source)) parentValue = true := by
  simp only [Usable, hasValue_iff, Equation.passes_iff, exists_eq_left]

instance : Decidable (Usable view source cleanups validation parentValue element) :=
  decidable_of_iff _ usable_iff.symm

/-- There is one text to write down. -/
theorem Written.unique {text other : String}
    (written : Written view source cleanups parentValue element validation text)
    (written' : Written view source cleanups parentValue element validation other) : text = other := by
  -- The value stays, or it does not.
  cases written with
  | value has stays =>
    cases written' with
    | value has' stays' => rw [hasValue_iff.mp has, hasValue_iff.mp has']
    | parentValue => cases stays _ rfl
  | parentValue =>
    cases written' with
    | value has' stays' => cases stays' _ rfl
    | parentValue => rfl

/-- For a value of use a text is written down. -/
theorem exists_valueOf? (useful : Usable view source cleanups validation parentValue element) :
    ∃ text, valueOf? view source cleanups validation parentValue element = some text ∧
      Written view source cleanups parentValue element validation text := by
  obtain ⟨filled, passes⟩ := usable_iff.mp useful
  have has := hasValue_iff.mpr (Eq.refl (cleaned cleanups (rawValue view element source)))
  rcases validation with _ | ⟨equation, target⟩
  · exact ⟨_, by simp [valueOf?, filled], .value has (by simp)⟩
  · -- The comparison is passed, and says which text stays.
    have passed := passes _ rfl
    cases target with
    | value => exact ⟨_, by simp [valueOf?, filled, passed], .value has (by simp)⟩
    | parentValue => exact ⟨_, by simp [valueOf?, filled, passed], .parentValue⟩

/-- For a value of no use there is no text. -/
theorem valueOf?_of_not_usable (useless : ¬ Usable view source cleanups validation parentValue element) :
    valueOf? view source cleanups validation parentValue element = none := by
  by_cases empty : cleaned cleanups (rawValue view element source) = ""
  · simp [valueOf?, empty]
  · -- The comparison, if there is one, is the only other hurdle.
    rcases validation with _ | ⟨equation, target⟩
    · exact absurd (usable_iff.mpr ⟨empty, by simp⟩) useless
    · have failed : ¬ equation.evaluate (cleaned cleanups (rawValue view element source)) parentValue = true :=
        fun passed => useless (usable_iff.mpr ⟨empty, by simpa using passed⟩)
      simp [valueOf?, empty, failed]

end Value

/-- A node of a pattern and a scope that it is evaluated in. -/
structure Site (Element : Type) where
  node : Pattern
  scope : Element

/-- What is wrong with a node in a scope, its members and inner pattern left aside. -/
def Site.fault? (view : View Element) (parentValue : String) : Site Element → Option Fault
  | ⟨.selection _ selector source cleanups validation inner, scope⟩ =>
    match view.select scope selector, source with
    | [], _ => some .missing
    | first :: _, some source =>
      if Usable view source cleanups validation parentValue first then none else some .unusable
    | _ :: _, none => if inner.isSome then none else some .unusable
  | ⟨.group members, _⟩ => if members.isEmpty then some .unusable else none

mutual

/-- The places where a pattern is applied in a scope: the node itself comes before what is inside. -/
def sites (view : View Element) : Pattern → Element → List (Site Element)
  | .selection source selector value cleanups validation inner, scope =>
    ⟨.selection source selector value cleanups validation inner, scope⟩ ::
      innerSites view inner (view.select scope selector)
  | .group members, scope => ⟨.group members, scope⟩ :: memberSites view members scope

/-- The places of an inner pattern, one match after the other. -/
def innerSites (view : View Element) : Option Pattern → List Element → List (Site Element)
  | none, _ => []
  | some inner, found => found.flatMap (sites view inner)

/-- The places of the members of a group, one member after the other. -/
def memberSites (view : View Element) : List (String × Pattern) → Element → List (Site Element)
  | [], _ => []
  | (_, member) :: rest, scope => sites view member scope ++ memberSites view rest scope

end

/-- Giving a field a value leaves some field. -/
theorem insert_ne_nil (fields : Fields) (name : String) (value : Json) : fields.insert name value ≠ [] := by
  -- The field is put in the place of one of its name, or at the end.
  unfold Fields.insert
  split
  · exact List.cons_ne_nil _ _
  · split <;> exact List.cons_ne_nil _ _

/-- Collecting the records of matches fails like the first place inside them where something is wrong. -/
theorem fault?_collect {run : Element → Evaluation} {inside : Element → List (Site Element)}
    {faultOf : Site Element → Option Fault}
    (each : ∀ element, (run element).fault? = (inside element).findSome? faultOf) (index : Nat)
    (fields : Fields) (found : List Element) (some_ : found ≠ [] ∨ fields ≠ []) :
    (collect run index fields found).fault? = (found.flatMap inside).findSome? faultOf := by
  -- The walk ends at the first outcome that is no record, and each record adds a field.
  induction found generalizing index fields with
  | nil =>
    rw [collect, Evaluation.ofFields_of_ne_nil (by simpa using some_)]
    rfl
  | cons element rest ih =>
    rw [collect, List.flatMap_cons, List.findSome?_append, ← each]
    cases run element with
    | record inner => exact ih _ _ (.inr (insert_ne_nil _ _ _))
    | wrongPage => rfl
    | invalid => rfl

mutual

/-- An evaluation fails like the first place where something is wrong, and succeeds if there is none. -/
theorem fault?_evaluate (view : View Element) (parentValue : String) :
    (pattern : Pattern) → (scope : Element) →
      (pattern.evaluate view parentValue scope).fault? =
        (pattern.sites view scope).findSome? (Site.fault? view parentValue)
  | .selection source selector value cleanups validation inner, scope => by
    rw [evaluate, sites, List.findSome?_cons]
    cases found : view.select scope selector with
    | nil =>
      simp only [Site.fault?, found]
      rfl
    | cons first rest =>
      have matched : first :: rest ≠ [] := List.cons_ne_nil _ _
      cases value with
      | none =>
        -- Without a value of its own the node needs an inner pattern.
        cases inner with
        | none =>
          simp only [Site.fault?, found]
          rfl
        | some inner =>
          simpa only [Site.fault?, found, Option.isSome_some, if_true] using
            fault?_evaluateInner view parentValue (some inner) [] _ matched (.inl rfl)
      | some value =>
        -- A value of no use is the first fault, and one of use is a field.
        by_cases useful : Usable view value cleanups validation parentValue first
        · obtain ⟨text, taken, -⟩ := exists_valueOf? useful
          simpa only [Site.fault?, found, taken, if_pos useful, Option.map_some] using
            fault?_evaluateInner view parentValue inner [_] _ matched (.inr (List.cons_ne_nil _ _))
        · simp only [Site.fault?, found, valueOf?_of_not_usable useful, if_neg useful]
          rfl
  | .group members, scope => by
    rw [evaluate, sites, List.findSome?_cons]
    cases members with
    | nil =>
      rw [evaluateMembers]
      rfl
    | cons first rest =>
      exact fault?_evaluateMembers view parentValue (first :: rest) scope [] (.inl (List.cons_ne_nil _ _))

/-- An inner pattern fails like the first place in it where something is wrong. -/
theorem fault?_evaluateInner (view : View Element) (parentValue : String) :
    (inner : Option Pattern) → (fields : Fields) → (found : List Element) → found ≠ [] →
      inner.isSome ∨ fields ≠ [] →
      (evaluateInner view parentValue inner fields found).fault? =
        (innerSites view inner found).findSome? (Site.fault? view parentValue)
  -- Every match is evaluated on its own, and the first fault ends it.
  | none, fields, found, matched, some_ => by
    rw [evaluateInner, Evaluation.ofFields_of_ne_nil (by simpa using some_)]
    rfl
  | some inner, fields, found, matched, some_ =>
    fault?_collect (fault?_evaluate view parentValue inner) 0 fields found (.inl matched)

/-- The members of a group fail like the first place in them where something is wrong. -/
theorem fault?_evaluateMembers (view : View Element) (parentValue : String) :
    (members : List (String × Pattern)) → (scope : Element) → (done : Fields) →
      members ≠ [] ∨ done ≠ [] →
      (evaluateMembers view parentValue members scope done).fault? =
        (memberSites view members scope).findSome? (Site.fault? view parentValue)
  -- The recursion is that of the evaluation: a member with a fault ends it.
  | [], scope, done, some_ => by
    rw [evaluateMembers, Evaluation.ofFields_of_ne_nil (by simpa using some_)]
    rfl
  | (name, member) :: rest, scope, done, some_ => by
    rw [evaluateMembers, memberSites, List.findSome?_append, ← fault?_evaluate view parentValue member scope]
    cases member.evaluate view parentValue scope with
    | record inner => exact fault?_evaluateMembers view parentValue rest scope _ (.inr (insert_ne_nil _ _ _))
    | wrongPage => rfl
    | invalid => rfl

end

end Pattern

end Harvest

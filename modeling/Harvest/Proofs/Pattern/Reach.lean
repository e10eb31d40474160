import Harvest.Proofs.Equation.Grammar
import Harvest.Proofs.Pattern.Leaves

/-! How far the value from the listing page reaches. It decides about an evaluation only through comparisons that have
it as an operand, and it is seen in a record only where a validation puts it in the place of an extracted value. -/

namespace Harvest

/-- The token names the value from the listing page, with or without quotes. -/
def Operand.NamesParent (token : List Char) : Prop :=
  token = "parentValue".toList ∨
    ∃ quote written, Equation.IsQuote quote ∧ Equation.Quoted quote written "parentValue".toList ∧
      token = quote :: (written ++ [quote])

/-- A written operand is the value from the listing page exactly if it is written as its name. -/
theorem Operand.Written.eq_parentValue_iff {token : List Char} {operand : Operand} (written : Written token operand) :
    operand = .parentValue ↔ NamesParent token := by
  constructor
  · rintro rfl
    cases written with
    | parentValue => exact .inl rfl
    | quotedParentValue mark content => exact .inr ⟨_, _, mark, content, rfl⟩
  · -- A token is read as one operand only.
    intro named
    have other : Written token .parentValue := by
      rcases named with rfl | ⟨quote, inside, mark, content, rfl⟩
      · exact .parentValue
      · exact .quotedParentValue mark content
    exact Except.ok.inj (written.read.symm.trans other.read)

/-- An operand other than the value from the listing page does not depend on it. -/
theorem Operand.resolve_congr {operand : Operand} (other : operand ≠ .parentValue) (value left right : String) :
    operand.resolve value left = operand.resolve value right := by
  -- By the operand, two kinds of which stand for something else.
  cases operand with
  | value => rfl
  | parentValue => exact absurd rfl other
  | literal text => rfl

namespace Equation

/-- The value from the listing page is one of the operands. -/
def Mentions (equation : Equation) : Prop :=
  equation.left = .parentValue ∨ equation.right = .parentValue

instance (equation : Equation) : Decidable equation.Mentions := inferInstanceAs (Decidable (_ ∨ _))

/-- A comparison without the value from the listing page as an operand does not depend on it. -/
theorem evaluate_congr {equation : Equation} (unmentioned : ¬equation.Mentions) (value left right : String) :
    equation.evaluate value left = equation.evaluate value right := by
  obtain ⟨notLeft, notRight⟩ := not_or.mp unmentioned
  rw [evaluate, evaluate, Operand.resolve_congr notLeft value left right,
    Operand.resolve_congr notRight value left right]

/-- A comparison that is read from a text has the value from the listing page as an operand exactly if one of the two
operands is written as its name. -/
theorem mentions_iff_of_parse {source : String} {equation : Equation} (read : parse source = .ok equation) :
    equation.Mentions ↔ ∃ layout : Layout, layout.text = source.toList ∧ layout.Writes equation ∧
      (Operand.NamesParent layout.left ∨ Operand.NamesParent layout.right) := by
  -- An operand is the value from the listing page only if it is written as its name.
  obtain ⟨left, right, scanned, readLeft, readRight⟩ := parse_eq_ok_iff.mp read
  constructor
  · intro mentioned
    obtain ⟨layout, whole, writes⟩ := Layout.exists_of_tokens scanned readLeft readRight
    refine ⟨layout, whole, writes, ?_⟩
    rwa [← writes.left.eq_parentValue_iff, ← writes.right.eq_parentValue_iff]
  · rintro ⟨layout, -, writes, named⟩
    rwa [← writes.left.eq_parentValue_iff, ← writes.right.eq_parentValue_iff] at named

end Equation

namespace Json

mutual

/-- Two values are the same up to the places that are open, where the one text may stand on the left and the other on
the right. A place is told by the names of the members on the way to it. -/
inductive Alike (left right : String) : (List String → Prop) → Json → Json → Prop
  | same {free : List String → Prop} (text : String) : Alike left right free (.string text) (.string text)
  | differ {free : List String → Prop} (here : free []) : Alike left right free (.string left) (.string right)
  | object {free : List String → Prop} {fields others : Fields} (each : AlikeFields left right free fields others) :
      Alike left right free (.object fields) (.object others)

/-- The fields have the same names in the same order, and their values are the same up to the places that are open. -/
inductive AlikeFields (left right : String) : (List String → Prop) → Fields → Fields → Prop
  | nil {free : List String → Prop} : AlikeFields left right free [] []
  | cons {free : List String → Prop} {name : String} {value other : Json} {fields others : Fields}
      (first : Alike left right (fun path => free (name :: path)) value other)
      (rest : AlikeFields left right free fields others) :
      AlikeFields left right free ((name, value) :: fields) ((name, other) :: others)

end

variable {left right : String} {free : List String → Prop}

/-- Giving a field of both sides values that are alike leaves them alike. -/
theorem AlikeFields.insert {fields others : Fields} (old : AlikeFields left right free fields others) {name : String}
    {value other : Json} (new : Alike left right (fun path => free (name :: path)) value other) :
    AlikeFields left right free (fields.insert name value) (others.insert name other) := by
  induction fields generalizing others with
  | nil =>
    cases old with
    | nil => exact .cons new .nil
  | cons field fields ih =>
    cases old with
    | @cons _ first _ _ _ _ here rest =>
      -- The field is at the same place on both sides, or comes later on both.
      rw [Fields.insert, Fields.insert]
      split
      · exact .cons new rest
      · exact .cons here (ih rest)

mutual

/-- Without an open place, values that are alike are the same. -/
theorem Alike.eq_of_closed (left right : String) : {free : List String → Prop} → (∀ path, ¬free path) →
    {value other : Json} → Alike left right free value other → value = other
  -- Where no place is open, nothing differs, and what is inside an object has no open place either.
  | _, _, _, _, .same _ => rfl
  | _, closed, _, _, .differ here => absurd here (closed [])
  | _, closed, _, _, .object each => by rw [each.eq_of_closed left right closed]

/-- Without an open place, fields that are alike are the same. -/
theorem AlikeFields.eq_of_closed (left right : String) : {free : List String → Prop} → (∀ path, ¬free path) →
    {fields others : Fields} → AlikeFields left right free fields others → fields = others
  -- Fields are compared one by one.
  | _, _, _, _, .nil => rfl
  | _, closed, _, _, .cons first rest => by
    rw [first.eq_of_closed left right fun _ => closed _, rest.eq_of_closed left right closed]

end

end Json

/-- Two evaluations have the same fault, or are records that are the same up to the places that are open. -/
inductive Evaluation.Alike (left right : String) (free : List String → Prop) : Evaluation → Evaluation → Prop
  | record {fields others : Fields} (each : Json.AlikeFields left right free fields others) :
      Evaluation.Alike left right free (.record fields) (.record others)
  | wrongPage : Evaluation.Alike left right free .wrongPage .wrongPage
  | invalid : Evaluation.Alike left right free .invalid .invalid

section Evaluation

variable {left right : String} {free : List String → Prop}

/-- Without an open place, evaluations that are alike are the same. -/
theorem Evaluation.Alike.eq_of_closed (closed : ∀ path, ¬free path) {evaluation other : Evaluation}
    (alike : evaluation.Alike left right free other) : evaluation = other := by
  -- Only records have fields that could differ.
  cases alike with
  | record each => rw [each.eq_of_closed left right closed]
  | wrongPage => rfl
  | invalid => rfl

/-- Fields that are alike make evaluations that are alike. -/
theorem Evaluation.alike_ofFields {fields others : Fields} (each : Json.AlikeFields left right free fields others) :
    (ofFields fields).Alike left right free (ofFields others) := by
  -- Without any field there is nothing of use on either side.
  cases each with
  | nil => exact .invalid
  | cons first rest => exact .record (.cons first rest)

end Evaluation

namespace Pattern

variable {Element : Type}

/-- Somewhere in the pattern an extracted value must pass a comparison that has the one from the listing page as an
operand. -/
inductive Compares : Pattern → Prop
  | value {source : String} {selector : Selector} {wanted : ValueSource} {cleanups : List Cleanup}
      {validation : Validation} {inner : Option Pattern} (mentioned : validation.equation.Mentions) :
      Compares (.selection source selector (some wanted) cleanups (some validation) inner)
  | inner {source : String} {selector : Selector} {value : Option ValueSource} {cleanups : List Cleanup}
      {validation : Option Validation} {pattern : Pattern} (compared : Compares pattern) :
      Compares (.selection source selector value cleanups validation (some pattern))
  | member {members : List (String × Pattern)} {member : String × Pattern} (among : member ∈ members)
      (compared : Compares member.2) : Compares (.group members)

/-- The place in a record of a value whose validation lets the one from the listing page take its place. -/
inductive TakesOverAt : Pattern → List String → Prop
  | value {source : String} {selector : Selector} {wanted : ValueSource} {cleanups : List Cleanup}
      {equation : Equation} {inner : Option Pattern} :
      TakesOverAt (.selection source selector (some wanted) cleanups (some ⟨equation, .parentValue⟩) inner) ["value"]
  | inner {source : String} {selector : Selector} {value : Option ValueSource} {cleanups : List Cleanup}
      {validation : Option Validation} {pattern : Pattern} {path : List String} (index : Nat)
      (taken : TakesOverAt pattern path) :
      TakesOverAt (.selection source selector value cleanups validation (some pattern)) (toString index :: path)
  | member {members : List (String × Pattern)} {member : String × Pattern} {path : List String}
      (among : member ∈ members) (taken : TakesOverAt member.2 path) : TakesOverAt (.group members) (member.1 :: path)

/-- There is such a place only if the pattern takes the value over. -/
theorem TakesOverAt.takesOver {pattern : Pattern} {path : List String} (taken : pattern.TakesOverAt path) :
    pattern.TakesOver := by
  -- By the way to the place.
  induction taken with
  | value => exact .value
  | inner index taken ih => exact .inner ih
  | member among taken ih => exact .member among ih

variable {view : View Element} {left right : String} {free : List String → Prop}

/-- Whether a value is of use does not depend on the one from the listing page, if it is not compared with that. -/
theorem usable_congr (view : View Element) (wanted : ValueSource) (cleanups : List Cleanup)
    {validation : Option Validation} (unmentioned : ∀ check ∈ validation, ¬check.equation.Mentions)
    (left right : String) (element : Element) :
    Usable view wanted cleanups validation left element ↔ Usable view wanted cleanups validation right element := by
  refine exists_congr fun value => and_congr_right fun _ => and_congr_right fun _ => ?_
  refine forall₂_congr fun check isCheck => ?_
  rw [Equation.passes_iff, Equation.passes_iff, Equation.evaluate_congr (unmentioned check isCheck) _ left right]

/-- The same text is written down on both sides, unless the value from the listing page takes its place. -/
theorem Written.alike {wanted : ValueSource} {cleanups : List Cleanup} {validation : Option Validation}
    {element : Element} {text other : String} (written : Written view wanted cleanups left element validation text)
    (written' : Written view wanted cleanups right element validation other)
    (opens : ∀ equation, validation = some ⟨equation, .parentValue⟩ → free []) :
    Json.Alike left right free (.string text) (.string other) := by
  -- Both take the value over, or both write down what the element has.
  cases written with
  | value has stays =>
    cases written' with
    | value has' stays' =>
      rw [hasValue_iff.mp has, hasValue_iff.mp has']
      exact .same _
    | parentValue => cases stays _ rfl
  | parentValue =>
    cases written' with
    | value has' stays' => cases stays' _ rfl
    | parentValue => exact .differ (opens _ rfl)

/-- Evaluations that are alike under each match are collected into such that are alike. -/
theorem collect_alike {run other : Element → Evaluation}
    (each : ∀ (index : Nat) element,
      (run element).Alike left right (fun path => free (toString index :: path)) (other element))
    (found : List Element) (index : Nat) {fields others : Fields}
    (old : Json.AlikeFields left right free fields others) :
    (collect run index fields found).Alike left right free (collect other index others found) := by
  -- The first match with a fault ends both walks, since the fault is the same.
  induction found generalizing index fields others with
  | nil =>
    rw [collect, collect]
    exact Evaluation.alike_ofFields old
  | cons element rest ih =>
    rw [collect, collect]
    have here := each index element
    generalize run element = outcome, other element = outcome' at here
    cases here with
    | record inside => exact ih (index + 1) (old.insert (.object inside))
    | wrongPage => exact .wrongPage
    | invalid => exact .invalid

mutual

/-- Without a comparison that has the value from the listing page as an operand, evaluations for two such values are
alike, up to the places where they are taken over. -/
theorem evaluate_alike (view : View Element) (left right : String) :
    (pattern : Pattern) → ¬pattern.Compares → {free : List String → Prop} →
      (∀ path, pattern.TakesOverAt path → free path) → (scope : Element) →
      (pattern.evaluate view left scope).Alike left right free (pattern.evaluate view right scope)
  -- The recursion is that of the evaluation, and a value is of use on both sides or on none.
  | .selection source selector value cleanups validation inner, uncompared, free, opens, scope => by
    have inside : ∀ pattern ∈ inner, ¬pattern.Compares ∧
        ∀ (index : Nat) path, pattern.TakesOverAt path → free (toString index :: path) := by
      rintro pattern ⟨⟩
      exact ⟨fun compared => uncompared (.inner compared), fun index path taken => opens _ (.inner index taken)⟩
    rw [evaluate, evaluate]
    cases view.select scope selector with
    | nil => exact .wrongPage
    | cons first rest =>
      cases value with
      | none => exact evaluateInner_alike view left right inner inside _ .nil
      | some wanted =>
        have unmentioned : ∀ check ∈ validation, ¬check.equation.Mentions := by
          rintro check ⟨⟩ mentioned
          exact uncompared (.value mentioned)
        have same := usable_congr view wanted cleanups unmentioned left right first
        -- A value that is of no use on one side is of none on the other.
        by_cases useful : Usable view wanted cleanups validation right first
        · obtain ⟨text, taken, written⟩ := exists_valueOf? (same.mpr useful)
          obtain ⟨other, taken', written'⟩ := exists_valueOf? useful
          simp only [taken, taken', Option.map_some]
          refine evaluateInner_alike view left right inner inside _ (.cons (written.alike written' ?_) .nil)
          rintro equation rfl
          exact opens _ .value
        · simp only [valueOf?_of_not_usable useful, valueOf?_of_not_usable (useful ∘ same.mp), Option.map_none]
          exact .invalid
  | .group members, uncompared, free, opens, scope => by
    rw [evaluate, evaluate]
    exact evaluateMembers_alike view left right members (fun member among =>
      ⟨fun compared => uncompared (.member among compared), fun path taken => opens _ (.member among taken)⟩) scope .nil

/-- The evaluations of an inner pattern keep fields alike that have been found before. -/
theorem evaluateInner_alike (view : View Element) (left right : String) :
    (inner : Option Pattern) → {free : List String → Prop} →
      (∀ pattern ∈ inner, ¬pattern.Compares ∧
        ∀ (index : Nat) path, pattern.TakesOverAt path → free (toString index :: path)) →
      (found : List Element) → {fields others : Fields} → Json.AlikeFields left right free fields others →
      (evaluateInner view left inner fields found).Alike left right free (evaluateInner view right inner others found)
  -- Without an inner pattern there are only the fields from before.
  | none, free, inside, found, fields, others, old => by
    rw [evaluateInner, evaluateInner]
    exact Evaluation.alike_ofFields old
  | some inner, free, inside, found, fields, others, old => by
    rw [evaluateInner, evaluateInner]
    obtain ⟨uncompared, opens⟩ := inside inner rfl
    exact collect_alike (fun index => evaluate_alike view left right inner uncompared (opens index)) found 0 old

/-- The evaluations of the members keep fields alike that have been found before. -/
theorem evaluateMembers_alike (view : View Element) (left right : String) :
    (members : List (String × Pattern)) → {free : List String → Prop} →
      (∀ member ∈ members, ¬member.2.Compares ∧ ∀ path, member.2.TakesOverAt path → free (member.1 :: path)) →
      (scope : Element) → {fields others : Fields} → Json.AlikeFields left right free fields others →
      (evaluateMembers view left members scope fields).Alike left right free
        (evaluateMembers view right members scope others)
  -- The recursion is that of the evaluation, with what is done already as its fields.
  | [], free, inside, scope, fields, others, old => by
    rw [evaluateMembers, evaluateMembers]
    exact Evaluation.alike_ofFields old
  | (name, member) :: rest, free, inside, scope, fields, others, old => by
    obtain ⟨⟨uncompared, opens⟩, later⟩ := List.forall_mem_cons.mp inside
    rw [evaluateMembers, evaluateMembers]
    have here := evaluate_alike view left right member uncompared opens scope
    generalize member.evaluate view left scope = outcome, member.evaluate view right scope = outcome' at here
    cases here with
    | record inner => exact evaluateMembers_alike view left right rest later scope (old.insert (.object inner))
    | wrongPage => exact .wrongPage
    | invalid => exact .invalid

end

/-- Where no comparison has the value from the listing page as an operand, two such values give the same fault or
records that differ only where it is taken over, and the same evaluation if it is taken over nowhere. Whether a
comparison has it as an operand is seen in its text. -/
theorem parentValue_confined (view : View Element) {pattern : Pattern} (uncompared : ¬pattern.Compares)
    (left right : String) (scope : Element) :
    (¬pattern.TakesOver → pattern.evaluate view left scope = pattern.evaluate view right scope) ∧
      (pattern.evaluate view left scope).Alike left right pattern.TakesOverAt (pattern.evaluate view right scope) ∧
      ∀ (source : String) (equation : Equation), Equation.parse source = .ok equation →
        (equation.Mentions ↔ ∃ layout : Equation.Layout, layout.text = source.toList ∧ layout.Writes equation ∧
          (Operand.NamesParent layout.left ∨ Operand.NamesParent layout.right)) := by
  -- Evaluations are alike up to the open places, of which there are none if nothing is taken over.
  have alike := evaluate_alike view left right pattern uncompared (fun _ => id) scope
  refine ⟨fun kept => ?_, alike, fun _ _ => Equation.mentions_iff_of_parse⟩
  exact alike.eq_of_closed fun _ taken => kept taken.takesOver

/-- A pattern for a name, and for a colour that gives way to the one from the listing page. -/
def nameAndColour : Pattern :=
  .group [("name", .selection "b" ⟨[.compound [.named "b"]]⟩ (some .text) [] none none),
    ("colour", .selection "p" ⟨[.compound [.named "p"]]⟩ (some .text) []
      (some ⟨⟨.value, .ne, .literal "none"⟩, .parentValue⟩) none)]

/-- The colour is not compared with the one from the listing page. -/
theorem nameAndColour_not_compares : ¬nameAndColour.Compares := by
  intro compared
  rw [nameAndColour] at compared
  cases compared with
  | member among compared =>
    rcases List.mem_cons.mp among with rfl | among
    · -- The name is not compared with anything.
      cases compared
    · obtain rfl := List.mem_singleton.mp among
      cases compared with
      | value mentioned => exact absurd mentioned (by decide)

/-- The text that is the value of a member. -/
def memberText (name : String) (evaluation : Evaluation) : Option String :=
  (evaluation.fields.get? name).bind fun member => (member.field "value").string?

/-- On a page with a red thing the records for a blue and a green listing have the same name, each the colour of its
listing, and are the same otherwise. -/
theorem parentValue_confined_nameAndColour :
    ∃ root, Markup.Element.root? (Markup.parseDocument "<b>x</b><p>Red</p>") = some root ∧
      ¬nameAndColour.Compares ∧
      memberText "name" (nameAndColour.evaluate documentView "Blue" root) = some "x" ∧
      memberText "colour" (nameAndColour.evaluate documentView "Blue" root) = some "Blue" ∧
      memberText "colour" (nameAndColour.evaluate documentView "Green" root) = some "Green" ∧
      (nameAndColour.evaluate documentView "Blue" root).Alike "Blue" "Green" nameAndColour.TakesOverAt
        (nameAndColour.evaluate documentView "Green" root) := by
  -- The sample is run for the texts, and the general result says that nothing else differs.
  have computed : (Markup.Element.root? (Markup.parseDocument "<b>x</b><p>Red</p>")).map (fun root =>
      (memberText "name" (nameAndColour.evaluate documentView "Blue" root),
        memberText "colour" (nameAndColour.evaluate documentView "Blue" root),
        memberText "colour" (nameAndColour.evaluate documentView "Green" root))) =
      some (some "x", some "Blue", some "Green") := by decide +kernel
  obtain ⟨root, found, told⟩ := Option.map_eq_some_iff.mp computed
  obtain ⟨name, rest⟩ := Prod.mk.inj told
  obtain ⟨blue, green⟩ := Prod.mk.inj rest
  exact ⟨root, found, nameAndColour_not_compares, name, blue, green,
    (parentValue_confined documentView nameAndColour_not_compares "Blue" "Green" root).2.1⟩

end Pattern

end Harvest

import Harvest.Equation.Reader
import Harvest.Proofs.Number.Binary64
import Mathlib.Algebra.Order.Ring.Int
import Mathlib.Data.String.Basic
import Mathlib.Order.Compare

/-! Of two operands the first is less, both are equal, or the first is greater, and never two of these at once. Only
when both read as numbers and one of them as `nan` there is no order, and then no comparison holds at all. -/

namespace Harvest

namespace Comparator

/-- The comparator for what another one rules out. -/
def opposite : Comparator → Comparator
  | eq => ne
  | ne => eq
  | lt => ge
  | le => gt
  | gt => le
  | ge => lt

/-- In any order, a comparator holds exactly if its opposite does not. -/
theorem holds_opposite (comparator : Comparator) (order : Ordering) :
    comparator.opposite.holds order = !comparator.holds order := by
  cases comparator <;> cases order <;> rfl

/-- The comparator that holds in one order only. -/
def ofOrdering : Ordering → Comparator
  | .lt => lt
  | .eq => eq
  | .gt => gt

/-- The comparators that single out an order each. -/
def strict : List Comparator :=
  [lt, eq, gt]

/-- Of these comparators the one that singles out an order is the one that holds in it. -/
theorem holds_iff_eq_ofOrdering {comparator : Comparator} (among : comparator ∈ strict) (order : Ordering) :
    comparator.holds order = true ↔ comparator = ofOrdering order := by
  simp only [strict, List.mem_cons, List.not_mem_nil, or_false] at among
  rcases among with rfl | rfl | rfl <;> cases order <;> decide

/-- What a comparator says about two members of a linear order. -/
def Relates {α : Type} [LinearOrder α] (a b : α) : Comparator → Prop
  | eq => a = b
  | ne => a ≠ b
  | lt => a < b
  | le => a ≤ b
  | gt => b < a
  | ge => b ≤ a

/-- A comparator holds in the order of two members if they are as it says. -/
theorem holds_compare_iff {α : Type} [LinearOrder α] {a b : α} {comparator : Comparator} :
    comparator.holds (compare a b) = true ↔ comparator.Relates a b := by
  -- Each comparator asks for one order, or for any but one.
  cases comparator <;> simp [holds, Relates, compare_lt_iff_lt, compare_gt_iff_gt]

/-- In any order, exactly one of these comparators holds. -/
theorem existsUnique_strict (order : Ordering) :
    ∃! comparator, comparator ∈ strict ∧ comparator.holds order = true := by
  -- It is the comparator that the order itself is named by.
  have own : ofOrdering order ∈ strict := by cases order <;> decide
  exact ⟨ofOrdering order, ⟨own, (holds_iff_eq_ofOrdering own order).mpr rfl⟩,
    fun other ⟨among, holds⟩ => (holds_iff_eq_ofOrdering among order).mp holds⟩

end Comparator

namespace Binary64

/-- Two numbers have no order exactly if one of them is `nan`. -/
theorem compare?_eq_none_iff {a b : Binary64} : a.compare? b = none ↔ a = .nan ∨ b = .nan := by
  -- Numbers are compared by their places, which `nan` alone has none of.
  rw [← key?_eq_none_iff, ← key?_eq_none_iff]
  cases left : a.key? with
  | none => simp [compare?, left]
  | some m =>
    cases right : b.key? with
    | none => simp [compare?, right]
    | some n => simp [compare?_of_key? left right]

/-- No ratio of whole numbers is `nan`. -/
theorem ofRatio_ne_nan (negative : Bool) (num den : Nat) : ofRatio negative num den ≠ .nan := by
  -- It comes out as infinite or as finite.
  unfold ofRatio
  dsimp only
  split <;> nofun

/-- Digits and an exponent never stand for `nan`. -/
theorem ofDecimal_ne_nan (negative : Bool) (digits : Nat) (exponent : Int) :
    ofDecimal negative digits exponent ≠ .nan := by
  -- Each branch gives zero, an infinity or a ratio.
  unfold ofDecimal
  split
  · nofun
  split
  · split
    · nofun
    · exact ofRatio_ne_nan _ _ _
  · split
    · nofun
    · exact ofRatio_ne_nan _ _ _

end Binary64

namespace Decimal

/-- A text begins with its sign, if it has one. -/
theorem exists_sign (s : List Char) : ∃ sign ∈ [[], ['+'], ['-']], s = sign ++ (signed s).2 := by
  -- By the three cases in which a sign is looked for.
  unfold signed
  split
  · exact ⟨['-'], by simp, rfl⟩
  · exact ⟨['+'], by simp, rfl⟩
  · exact ⟨[], by simp, rfl⟩

/-- What follows a sign, and begins with none itself, is the rest of the text. -/
theorem signed_append {sign : List Char} (isSign : sign ∈ [[], ['+'], ['-']]) {c : Char} (plus : c ≠ '+')
    (minus : c ≠ '-') (rest : List Char) : (signed (sign ++ c :: rest)).2 = c :: rest := by
  -- Without a sign in front, the last case applies, since the text begins with none.
  simp only [List.mem_cons, List.not_mem_nil, or_false] at isSign
  rcases isSign with rfl | rfl | rfl
  · rw [List.nil_append, signed.eq_3 _ (by simp [minus]) (by simp [plus])]
  · rfl
  · rfl

/-- Of the numbers in text, those with the letters `nan` behind the sign are `nan`. -/
theorem binary64?_eq_nan_iff {s : List Char} :
    binary64? s = some .nan ↔ (signed s).2.map Char.toLower = "nan".toList := by
  unfold binary64?
  simp only [Text.sameLetters, Bool.or_eq_true, beq_iff_eq]
  split
  · -- The letters of an infinity are others.
    rename_i infinite
    refine iff_of_false nofun ?_
    rcases infinite with same | same <;> rw [same] <;> decide +kernel
  split
  · rename_i named
    exact iff_of_true rfl named
  · -- What is left consists of digits.
    rename_i unnamed
    refine iff_of_false ?_ unnamed
    split <;> simp [Binary64.ofDecimal_ne_nan]

end Decimal

namespace Equation

/-- The text is `nan` in letters of any case, behind a sign or none, with white space around. -/
def NamesNan (text : String) : Prop :=
  ∃ sign ∈ ["", "+", "-"], ∃ letters, Text.lower letters = "nan" ∧ Text.trim text = sign ++ letters

/-- The texts that read as `nan` are those that name it. -/
theorem number?_eq_nan_iff {text : String} : number? text = some .nan ↔ NamesNan text := by
  rw [number?, Decimal.binary64?_eq_nan_iff]
  constructor
  · intro same
    obtain ⟨sign, isSign, whole⟩ := Decimal.exists_sign (Text.trimChars text.toList)
    refine ⟨String.ofList sign, ?_, String.ofList (Decimal.signed (Text.trimChars text.toList)).2, ?_, ?_⟩
    · simpa [String.ofList_eq] using isSign
    · rw [Text.lower, String.toList_ofList, same]
      rfl
    · rw [Text.trim, ← String.ofList_append, ← whole]
  · rintro ⟨sign, isSign, letters, same, whole⟩
    have first : (letters.toList.map Char.toLower) = "nan".toList := by
      rw [← same, Text.lower, String.toList_ofList]
    obtain ⟨c, rest, written, lowered, -⟩ := List.map_eq_cons_iff.mp first
    -- The letter in front is no sign.
    have plus : c ≠ '+' := by
      rintro rfl
      exact absurd lowered (by decide)
    have minus : c ≠ '-' := by
      rintro rfl
      exact absurd lowered (by decide)
    have trimmed : Text.trimChars text.toList = sign.toList ++ c :: rest := by
      rw [← written, ← String.toList_append, ← whole, Text.trim, String.toList_ofList]
    have isSign : sign.toList ∈ [[], ['+'], ['-']] := by
      simp only [List.mem_cons, List.not_mem_nil, or_false] at isSign
      rcases isSign with rfl | rfl | rfl <;> decide
    rw [trimmed, Decimal.signed_append isSign plus minus, ← written, first]

/-- The texts have no order: both read as numbers, and one of them as `nan`. -/
def Unordered (left right : String) : Prop :=
  (number? left).isSome ∧ (number? right).isSome ∧ (NamesNan left ∨ NamesNan right)

/-- Two texts have an order unless they are numbers one of which is `nan`. -/
theorem order?_eq_none_iff {left right : String} : order? left right = none ↔ Unordered left right := by
  -- An order is missing only between two numbers that cannot be compared.
  rw [Unordered, ← number?_eq_nan_iff, ← number?_eq_nan_iff, order?]
  cases number? left with
  | none => simp
  | some x =>
    cases number? right with
    | none => simp
    | some y => simp [Binary64.compare?_eq_none_iff]

/-- Texts that are no numbers, or one of which is none, have the order of their code points. -/
theorem order?_of_text {left right : String} (text : number? left = none ∨ number? right = none) :
    order? left right = some (compare left right) := by
  -- One of the two is compared as a text, and then both are.
  rw [order?]
  split
  · rename_i x y first second
    simp [first, second] at text
  · rw [LinearOrder.compare_eq_compareOfLessAndEq]

/-- Numbers have the order of their places on the number line. -/
theorem order?_of_key? {left right : String} {x y : Binary64} (first : number? left = some x)
    (second : number? right = some y) {m n : Int} (place : x.key? = some m) (place' : y.key? = some n) :
    order? left right = some (compare m n) := by
  rw [order?, first, second]
  exact Binary64.compare?_of_key? place place'

/-- A text is as large as itself, unless it names `nan`. -/
theorem order?_self {text : String} (unnamed : ¬NamesNan text) : order? text text = some .eq := by
  -- A text is compared with itself as a text, or by its place as a number.
  cases read : number? text with
  | none => rw [order?_of_text (.inl read), compare_eq_iff_eq.mpr rfl]
  | some x =>
    have isNumber : x ≠ .nan := fun same => unnamed (number?_eq_nan_iff.mp (same ▸ read))
    obtain ⟨m, place⟩ := Option.ne_none_iff_exists'.mp (mt Binary64.key?_eq_none_iff.mp isNumber)
    rw [order?_of_key? read read place place, compare_eq_iff_eq.mpr rfl]

/-- How a family of comparisons, one a comparator, decides about two texts. -/
structure Trichotomy (holds : Comparator → Bool) (left right : String) : Prop where
  /-- Texts with an order are less, equal or greater, one of the three. The other comparators negate these. -/
  ordered : ¬Unordered left right →
    (∃! comparator, comparator ∈ Comparator.strict ∧ holds comparator = true) ∧
      ∀ comparator, holds comparator.opposite = !holds comparator
  /-- Of texts without an order nothing holds. -/
  unordered : Unordered left right → ∀ comparator, holds comparator = false
  /-- A text is equal to itself, unless it names `nan`. -/
  same : left = right → ¬NamesNan left → holds .eq = true
  /-- Two numbers compare by their places on the number line. -/
  numbers : ∀ x y, number? left = some x → number? right = some y → ∀ m n, x.key? = some m → y.key? = some n →
    (holds .lt = true ↔ m < n) ∧ (holds .eq = true ↔ m = n) ∧ (holds .gt = true ↔ n < m)
  /-- All others compare as texts. -/
  texts : number? left = none ∨ number? right = none →
    (holds .lt = true ↔ left < right) ∧ (holds .eq = true ↔ left = right) ∧ (holds .gt = true ↔ right < left)

/-- An equation between operands decides by the order of their texts. -/
theorem evaluate_of_order {left right : Operand} {value parentValue : String} {order : Ordering}
    (found : order? (left.resolve value parentValue) (right.resolve value parentValue) = some order)
    (comparator : Comparator) :
    evaluate ⟨left, comparator, right⟩ value parentValue = comparator.holds order := by
  simp only [evaluate, found]

/-- The text that an operand stands for: the value, the one from the listing page, or what is written. -/
inductive StandsFor (value parentValue : String) : Operand → String → Prop
  | value : StandsFor value parentValue .value value
  | parentValue : StandsFor value parentValue .parentValue parentValue
  | literal {text : String} : StandsFor value parentValue (.literal text) text

/-- An operand stands for the text it resolves to. -/
theorem standsFor_iff {operand : Operand} {value parentValue text : String} :
    StandsFor value parentValue operand text ↔ text = operand.resolve value parentValue := by
  constructor
  · rintro (_ | _ | _) <;> rfl
  · rintro rfl
    cases operand with
    | value => exact .value
    | parentValue => exact .parentValue
    | literal text => exact .literal

/-- Two texts are as a comparator says: as numbers if both are, and as texts otherwise. -/
inductive Agree (comparator : Comparator) (left right : String) : Prop
  | numbers {x y : Binary64} {m n : Int} (first : number? left = some x) (second : number? right = some y)
      (place : x.key? = some m) (place' : y.key? = some n) (related : comparator.Relates m n)
  | texts (text : number? left = none ∨ number? right = none) (related : comparator.Relates left right)

/-- A comparator holds between two texts if they have an order, and it holds in that. -/
theorem agree_iff {comparator : Comparator} {left right : String} :
    Agree comparator left right ↔ ∃ order, order? left right = some order ∧ comparator.holds order = true := by
  -- The order is that of the places or that of the texts.
  constructor
  · rintro (⟨first, second, place, place', related⟩ | ⟨text, related⟩)
    · exact ⟨_, order?_of_key? first second place place', Comparator.holds_compare_iff.mpr related⟩
    · exact ⟨_, order?_of_text text, Comparator.holds_compare_iff.mpr related⟩
  · rintro ⟨order, found, holds⟩
    by_cases text : number? left = none ∨ number? right = none
    · rw [order?_of_text text, Option.some.injEq] at found
      exact .texts text (Comparator.holds_compare_iff.mp (found ▸ holds))
    · -- Two numbers with an order have places on the number line.
      push Not at text
      obtain ⟨x, first⟩ := Option.ne_none_iff_exists'.mp text.1
      obtain ⟨y, second⟩ := Option.ne_none_iff_exists'.mp text.2
      have ordered : order? left right ≠ none := by simp [found]
      rw [Ne, order?, first, second, Binary64.compare?_eq_none_iff, not_or] at ordered
      obtain ⟨m, place⟩ := Option.ne_none_iff_exists'.mp (mt Binary64.key?_eq_none_iff.mp ordered.1)
      obtain ⟨n, place'⟩ := Option.ne_none_iff_exists'.mp (mt Binary64.key?_eq_none_iff.mp ordered.2)
      rw [order?_of_key? first second place place', Option.some.injEq] at found
      exact .numbers first second place place' (Comparator.holds_compare_iff.mp (found ▸ holds))

/-- A value passes an equation if the texts of its operands are as its comparator says. -/
def Passes (equation : Equation) (value parentValue : String) : Prop :=
  ∃ left right, StandsFor value parentValue equation.left left ∧ StandsFor value parentValue equation.right right ∧
    Agree equation.comparator left right

/-- A value passes an equation exactly if that is evaluated so. -/
theorem passes_iff {equation : Equation} {value parentValue : String} :
    equation.Passes value parentValue ↔ equation.evaluate value parentValue = true := by
  -- Each operand stands for one text, so that there is one pair to compare.
  simp only [Passes, standsFor_iff, exists_and_left, exists_eq_left, agree_iff, evaluate]
  split
  · rename_i order found
    simp [found]
  · rename_i unordered
    simp [unordered]

/-- Comparisons of any two operands, whatever texts they stand for, are a trichotomy as far as there is an order. -/
theorem comparisons_trichotomous (left right : Operand) (value parentValue : String) :
    Trichotomy (fun comparator => evaluate ⟨left, comparator, right⟩ value parentValue)
      (left.resolve value parentValue) (right.resolve value parentValue) where
  ordered comparable := by
    -- Every comparison is decided by the order of the two texts, as soon as there is one.
    rw [← order?_eq_none_iff] at comparable
    obtain ⟨order, found⟩ := Option.ne_none_iff_exists'.mp comparable
    simp only [evaluate_of_order found]
    exact ⟨Comparator.existsUnique_strict order, fun comparator => comparator.holds_opposite order⟩
  unordered incomparable comparator := by
    simp only [evaluate, order?_eq_none_iff.mpr incomparable]
  same same unnamed := by
    have found : order? (left.resolve value parentValue) (right.resolve value parentValue) = some .eq := by
      rw [← same, order?_self unnamed]
    exact evaluate_of_order found .eq
  numbers x y first second m n place place' := by
    simp only [evaluate_of_order (order?_of_key? first second place place'), Comparator.holds, beq_iff_eq,
      compare_lt_iff_lt, compare_eq_iff_eq, compare_gt_iff_gt, and_self]
  texts text := by
    simp only [evaluate_of_order (order?_of_text text), Comparator.holds, beq_iff_eq,
      compare_lt_iff_lt, compare_eq_iff_eq, compare_gt_iff_gt, and_self]

/-- A value `NaN` is neither less than the same value from the listing page, nor equal to it, nor greater; that it
differs is denied as well. -/
theorem nan_unequal_to_itself :
    parse "value == parentValue" = .ok ⟨.value, .eq, .parentValue⟩ ∧
    evaluate ⟨.value, .eq, .parentValue⟩ "NaN" "NaN" = false ∧
    evaluate ⟨.value, .ne, .parentValue⟩ "NaN" "NaN" = false ∧
    ¬∃! comparator, comparator ∈ Comparator.strict ∧
      evaluate ⟨.value, comparator, .parentValue⟩ "NaN" "NaN" = true := by
  -- No comparator that could be the only one holds.
  refine ⟨by decide +kernel, by decide +kernel, by decide +kernel, ?_⟩
  rintro ⟨comparator, ⟨-, holds⟩, -⟩
  revert holds
  cases comparator <;> decide +kernel

end Equation

end Harvest

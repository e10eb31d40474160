import Harvest.Course

/-! Terms between a course and its surroundings: what the course may ask, what it may hear, and what it
knows then. A course that keeps to the terms does so however its surroundings behave within them. -/

namespace Harvest

/-- The terms between a course and its surroundings, told by what the course knows. -/
structure Terms (Question : Type) (Answer : Question → Type) (Knowledge : Type) where
  /-- The questions that the course may ask. -/
  asks : Knowledge → Question → Prop
  /-- The answers that it may hear, with what it knows afterwards. -/
  hears : Knowledge → (question : Question) → Answer question → Knowledge → Prop

namespace Course

variable {Question : Type} {Answer : Question → Type} {Knowledge α β : Type}
  {terms : Terms Question Answer Knowledge}

/-- The course asks only what it may, whatever it hears within the terms, and ends as described. -/
def Keeps (terms : Terms Question Answer Knowledge) (ends : Knowledge → α → Prop) :
    Course Question Answer α → Knowledge → Prop
  | done result, known => ends known result
  | ask question next, known =>
    terms.asks known question ∧
      ∀ answer known', terms.hears known question answer known' → (next answer).Keeps terms ends known'

/-- A course that ends at once keeps to any terms if its result is as described. -/
@[simp] theorem keeps_done {ends : Knowledge → α → Prop} {known : Knowledge} {result : α} :
    (done result : Course Question Answer α).Keeps terms ends known ↔ ends known result :=
  Iff.rfl

/-- A course followed by another one keeps to the terms if the second one does from wherever the first
ends. -/
theorem keeps_bind {ends : Knowledge → β → Prop} {course : Course Question Answer α}
    {next : α → Course Question Answer β} {known : Knowledge}
    (first : course.Keeps terms (fun known result => (next result).Keeps terms ends known) known) :
    (course.bind next).Keeps terms ends known := by
  -- The questions of the first course are passed on unchanged until it ends.
  induction course generalizing known with
  | done result => exact first
  | ask question rest ih =>
    obtain ⟨allowed, onwards⟩ := first
    exact ⟨allowed, fun answer known' heard => ih answer (onwards answer known' heard)⟩

/-- A course that ends as described also ends in any way that follows from it. -/
theorem Keeps.imp {ends ends' : Knowledge → α → Prop} {course : Course Question Answer α}
    {known : Knowledge} (kept : course.Keeps terms ends known)
    (weaker : ∀ known result, ends known result → ends' known result) :
    course.Keeps terms ends' known := by
  -- Only the ends of the course are looked at differently.
  induction course generalizing known with
  | done result => exact weaker known result kept
  | ask question rest ih =>
    exact ⟨kept.1, fun answer known' heard => ih answer (kept.2 answer known' heard)⟩

/-- A course followed by another one is followed to its own end first. -/
theorem run_bind {σ : Type} (answer : σ → (question : Question) → Answer question × σ)
    (course : Course Question Answer α) (next : α → Course Question Answer β) (state : σ) :
    (course.bind next).run answer state =
      (next (course.run answer state).1).run answer (course.run answer state).2 := by
  -- The surroundings answer the same questions until the first course ends.
  induction course generalizing state with
  | done result => rfl
  | ask question rest ih => exact ih _ _

end Course

end Harvest

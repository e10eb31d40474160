/-! A course of action asks its surroundings questions, one after the other, and ends with a result. Every
course ends after finitely many questions, whatever the answers are. -/

namespace Harvest

/-- A course of action with result in `α`; `Answer q` holds the possible answers to the question `q`. -/
inductive Course (Question : Type) (Answer : Question → Type) (α : Type) where
  | done (result : α)
  | ask (question : Question) (next : Answer question → Course Question Answer α)

namespace Course

variable {Question : Type} {Answer : Question → Type} {α β γ : Type}

/-- Goes on with the result of a first course. -/
def bind : Course Question Answer α → (α → Course Question Answer β) → Course Question Answer β
  | done result, next => next result
  | ask question rest, next => ask question fun answer => bind (rest answer) next

instance : Monad (Course Question Answer) where
  pure := done
  bind := bind

/-- Asks one question and ends with the answer. -/
def query (question : Question) : Course Question Answer (Answer question) :=
  ask question done

/-- A course that ends at once passes its result on. -/
@[simp] theorem done_bind (result : α) (next : α → Course Question Answer β) :
    (done result >>= next) = next result :=
  rfl

/-- The first question of a course stays the first one. -/
@[simp] theorem ask_bind (question : Question) (rest : Answer question → Course Question Answer α)
    (next : α → Course Question Answer β) :
    (ask question rest >>= next) = ask question fun answer => rest answer >>= next :=
  rfl

/-- A single question is followed by whatever its answer leads to. -/
@[simp] theorem query_bind (question : Question)
    (next : Answer question → Course Question Answer β) :
    (query question >>= next) = ask question next :=
  rfl

/-- Going on by ending at once changes nothing. -/
theorem bind_done (course : Course Question Answer α) : course.bind done = course := by
  -- Every question is kept, and its continuations are unchanged by induction.
  induction course with
  | done result => rfl
  | ask question rest ih => exact congrArg (ask question) (funext ih)

/-- Only the order of the parts matters, not how they are bracketed. -/
theorem bind_assoc (course : Course Question Answer α) (first : α → Course Question Answer β)
    (second : β → Course Question Answer γ) :
    (course.bind first).bind second = course.bind fun result => (first result).bind second := by
  -- Both sides ask the same question before they reach the shorter continuation.
  induction course with
  | done result => rfl
  | ask question rest ih => exact congrArg (ask question) (funext ih)

instance : LawfulMonad (Course Question Answer) :=
  LawfulMonad.mk' _ bind_done (fun _ _ => rfl) bind_assoc

/-- Follows a course to its end in surroundings that answer every question from a state and move on. -/
def run {σ : Type} (answer : σ → (question : Question) → Answer question × σ) :
    Course Question Answer α → σ → α × σ
  | done result, state => (result, state)
  | ask question next, state =>
    let (reply, state) := answer state question
    run answer (next reply) state

end Course

end Harvest

import Harvest.Json.Basic
import Harvest.Number.Word

/-! Choosing documents: conditions on fields, all of which must hold, and the window of a listing. -/

namespace Harvest

/-- What one field of a document must satisfy. -/
inductive Condition where
  | eq (value : Json)
  | ne (value : Json)
  /-- Below a bound of the same kind. -/
  | lt (bound : Json)
  | within (candidates : List Json)
  deriving Repr, Inhabited

/-- Does a field value satisfy the condition? -/
def Condition.holds : Condition → Json → Bool
  | eq expected, value => value.same expected
  | ne expected, value => !value.same expected
  | lt bound, value => value.compare? bound == some .lt
  | within candidates, value => candidates.any fun candidate => candidate.same value

/-- Conditions on named fields; a document is chosen if it satisfies all of them. -/
abbrev Filter := List (String × Condition)

namespace Filter

/-- Does a document satisfy every condition? A missing field counts as null. -/
def accepts (filter : Filter) (document : Json) : Bool :=
  filter.all fun (name, condition) => condition.holds (document.field name)

/-- The field is the given text. -/
def isText (name text : String) : String × Condition :=
  (name, .eq (.string text))

/-- The field is not the given text. -/
def isNotText (name text : String) : String × Condition :=
  (name, .ne (.string text))

/-- The field is one of the given texts. -/
def isOneOf (name : String) (texts : List String) : String × Condition :=
  (name, .within (texts.map .string))

end Filter

/-- A window of a listing: entries to pass over, and how many to show at most. -/
structure Page where
  skip : Nat
  limit : Option Nat
  deriving DecidableEq, Repr, Inhabited

namespace Page

/-- The whole listing. -/
def all : Page := ⟨0, none⟩

/-- The first entries only. -/
def first (limit : Nat) : Page := ⟨0, some limit⟩

/-- The page of a given number, counted from one; page zero is the whole listing. The start of a page is a
64-bit word, and there is no page whose start does not fit into one. -/
def numbered (page size : Nat) : Option Page :=
  if page = 0 then some all
  else if (page - 1) * size < Word.bound then some ⟨(page - 1) * size, some size⟩
  else none

/-- The entries inside the window. -/
def window (page : Page) (entries : List α) : List α :=
  match page.limit with
  | none => entries.drop page.skip
  | some limit => (entries.drop page.skip).take limit

end Page

end Harvest

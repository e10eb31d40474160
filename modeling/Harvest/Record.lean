import Harvest.Json.Basic

/-! Reading values with a fixed set of fields from documents of any format. A field occurs once at most,
also under another name of it; a value of the wrong kind is refused, and so is a number outside its range. -/

namespace Harvest.Record

/-- A format of documents; `V` holds the values of the format. -/
class Source (V : Type) where
  /-- The members of a value that has fields; the names may stand for positions. -/
  fields? : List String → V → Option (List (String × V))
  /-- The text of a value, where a text is called for. -/
  text? : V → Option String
  /-- The text of a value that cannot be anything but a text. -/
  word? : V → Option String
  /-- The name of one of several choices. -/
  name? : V → Option String
  flag? : V → Option Bool
  /-- A whole number from the first bound to below the second one. -/
  int? : Int → Int → V → Option Int
  /-- Is the value missing, where it may be? -/
  isNull : V → Bool
  items? : V → Option (List V)

export Source (fields? text? word? name? flag? int? isNull items?)

/-- In a document, a list of values gives the fields in the order of their names, and a choice may also be
the key of a null. -/
instance : Source Json where
  fields? names
    | .object members => some members
    | .array items => if items.length ≤ names.length then some (names.zip items) else none
    | _ => none
  text? := Json.string?
  word? := Json.string?
  name?
    | .string name => some name
    | .object [(name, .null)] => some name
    | _ => none
  flag?
    | .bool value => some value
    | _ => none
  int? low high
    | .int n => if low ≤ n ∧ n < high then some n else none
    | _ => none
  isNull
    | .null => true
    | _ => false
  items?
    | .array items => some items
    | _ => none

variable {V : Type}

/-- The value of a field that goes by any of the given names; the outer level tells whether the field
occurs once at most. -/
def field? (names : List String) (members : List (String × V)) : Option (Option V) :=
  match members.filter fun member => names.contains member.1 with
  | [] => some none
  | [(_, value)] => some (some value)
  | _ => none

/-- A field with a value for when it is missing. -/
def read? (names : List String) (missing : α) (value? : V → Option α) (members : List (String × V)) :
    Option α := do
  match ← field? names members with
  | some value => value? value
  | none => some missing

/-- A field that must be there. -/
def require? (names : List String) (value? : V → Option α) (members : List (String × V)) : Option α := do
  match ← field? names members with
  | some value => value? value
  | none => none

variable [Source V]

/-- A whole number below a bound, not below zero. -/
def nat? (bound : Nat) (value : V) : Option Nat :=
  (int? 0 bound value).map Int.toNat

/-- A time in milliseconds, within the range of the calendar. -/
def time? : V → Option Int :=
  int? (-8334601228800000) 8210266876800000

/-- A value or null. -/
def optional? (value? : V → Option α) (value : V) : Option (Option α) :=
  if isNull value then some none else (value? value).map some

/-- One of several values by its name. -/
def choice? (choices : List (String × α)) (value : V) : Option α :=
  (name? value).bind fun name => choices.lookup name

/-- A list of texts. -/
def texts? (value : V) : Option (List String) := do
  (← items? value).mapM text?

end Harvest.Record

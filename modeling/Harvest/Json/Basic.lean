import Harvest.Number.Binary64

/-! Documents: values whose objects keep their members in the order of insertion, with whole numbers and
binary64 numbers as different kinds. -/

namespace Harvest

/-- A document value. -/
inductive Json where
  | null
  | bool (value : Bool)
  /-- A whole number; it equals no `float`. -/
  | int (value : Int)
  | float (value : Binary64)
  | string (value : String)
  | array (items : List Json)
  /-- Members in order of insertion. -/
  | object (members : List (String × Json))
  deriving Repr, Inhabited

/-- The members of an object: field names with their values, in order of insertion. -/
abbrev Fields := List (String × Json)

namespace Fields

/-- The value of a field. -/
def get? (fields : Fields) (name : String) : Option Json :=
  fields.lookup name

/-- Gives a field a value: in its place if the name is present, else at the end. -/
def insert (name : String) (value : Json) : Fields → Fields
  | [] => [(name, value)]
  | (other, old) :: rest =>
    if other = name then (name, value) :: rest else (other, old) :: insert name value rest

/-- Inserts all of the fields of `more`, one after the other. -/
def extend (fields more : Fields) : Fields :=
  more.foldl (fun result (name, value) => result.insert name value) fields

/-- Takes one member out of the fields, if the name is present. -/
def without (fields : Fields) (name : String) : Fields :=
  fields.filter fun member => member.1 ≠ name

end Fields

namespace Json

/-- The members of an object; other values have none. -/
def fields : Json → Fields
  | object members => members
  | _ => []

/-- The value of a member; missing members and values that are not objects give null. -/
def field (document : Json) (name : String) : Json :=
  (document.fields.get? name).getD null

/-- The text of a string. -/
def string? : Json → Option String
  | string value => some value
  | _ => none

/-- The number as binary64; a whole number is rounded to the nearest one. -/
def binary64? : Json → Option Binary64
  | int value => some (Binary64.ofInt value)
  | float value => some value
  | _ => none

mutual

/-- Equality of values: numbers of one kind by value, objects without regard to the order of members. -/
def same : Json → Json → Bool
  | null, null => true
  | bool a, bool b => a == b
  | int a, int b => a == b
  | float a, float b => a.same b
  | string a, string b => a == b
  | array as, array bs => sameItems as bs
  | object as, object bs => as.length == bs.length && sameMembers as bs
  | _, _ => false

/-- Equality of lists, item by item. -/
def sameItems : List Json → List Json → Bool
  | [], [] => true
  | a :: as, b :: bs => same a b && sameItems as bs
  | _, _ => false

/-- Every member on the left is there on the right with an equal value. -/
def sameMembers : List (String × Json) → List (String × Json) → Bool
  | [], _ => true
  | (name, value) :: rest, bs =>
    (match bs.lookup name with
      | some other => same value other
      | none => false) && sameMembers rest bs

end

/-- The order of two numbers by value or of two strings by their code points; other pairs have none. -/
def compare? : Json → Json → Option Ordering
  | string a, string b => some (compareOfLessAndEq a b)
  | a, b => do
    let x ← a.binary64?
    let y ← b.binary64?
    x.compare? y

mutual

/-- The value with at most one member of each name in every object: the place of the first, the value of
the last. -/
def normalize : Json → Json
  | array items => array (normalizeItems items)
  | object members => object (normalizeMembers [] members)
  | other => other

/-- Every item in its normal form. -/
def normalizeItems : List Json → List Json
  | [] => []
  | item :: rest => normalize item :: normalizeItems rest

/-- Inserts the members in their normal form into the fields read so far. -/
def normalizeMembers (done : Fields) : List (String × Json) → Fields
  | [] => done
  | (name, value) :: rest => normalizeMembers (done.insert name (normalize value)) rest

end

end Json

end Harvest

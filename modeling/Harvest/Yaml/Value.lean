import Harvest.Record
import Harvest.Yaml.Kind
import Harvest.Yaml.Node

/-! Nodes as values with fields. Where a text is called for, every scalar gives its text; a number or a
truth value has to be plain. -/

namespace Harvest.Yaml.Node

/-- The tags of the format itself. -/
def coreTag (name : String) : String :=
  "tag:yaml.org,2002:" ++ name

/-- Is a node a plain scalar without any characters? Where a collection is called for, it is an empty one. -/
def isEmpty : Node → Bool
  | scalar _ true "" => true
  | _ => false

/-- Is a node written as nothing? A tag makes something of it, unless it is the one for nothing. -/
def isNull : Node → Bool
  | scalar tag true text => isNullText text && tag.all (· = coreTag "null")
  | _ => false

/-- The text of a scalar. -/
def text? : Node → Option String
  | scalar _ _ text => some text
  | _ => none

/-- The text of a scalar that is a text, and nothing else. -/
def word? : Node → Option String
  | scalar none isPlain text => if isPlain && !isText text then none else some text
  | scalar (some tag) _ text =>
    if ["bool", "int", "float", "null"].any (coreTag · = tag) then none
    else if tag.length > 1 && tag.toList.head? = some '!' then none
    else some text
  | _ => none

/-- The name of a choice: a scalar, or a tag with nothing behind it. -/
def name? : Node → Option String
  | scalar (some tag) isPlain text =>
    match tag.toList with
    | '!' :: c :: rest => if isPlain && isNullText text then some (String.ofList (c :: rest)) else none
    | _ => some text
  | scalar none _ text => some text
  | _ => none

/-- A truth value. -/
def flag? : Node → Option Bool
  | scalar _ true text => flagOf? text
  | _ => none

/-- A whole number of a range; one that cannot be negative has no minus sign. -/
def int? (low high : Int) : Node → Option Int
  | scalar _ true text =>
    let found := if low < 0 then signed? text.toList else (unsigned? text.toList).map Int.ofNat
    found.filter fun n => low ≤ n && n < high
  | _ => none

/-- The members of a mapping whose keys are scalars. -/
def members? : Node → Option (List (String × Node))
  | mapping members => members.mapM fun (key, value) => (text? key).map (·, value)
  | node => if node.isEmpty then some [] else none

/-- The items of a sequence. -/
def items? : Node → Option (List Node)
  | sequence items => some items
  | node => if node.isEmpty then some [] else none

instance : Record.Source Node where
  fields? _ := members?
  text? := text?
  word? := word?
  name? := name?
  flag? := flag?
  int? := int?
  isNull := isNull
  items? := items?

end Harvest.Yaml.Node

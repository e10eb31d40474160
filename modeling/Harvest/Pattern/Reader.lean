import Harvest.Json.Reader
import Harvest.Pattern.Basic
import Harvest.Selector.Reader
import Harvest.Store.Filter

/-! Reading a pattern from its document: an object with a selector, or an object of named patterns. -/

namespace Harvest.Pattern

/-- The selector of a text, or the cause that names the text. -/
def compile (source : String) : Except Error Selector :=
  match Selector.parse? source with
  | some selector => .ok selector
  | none => .error (.selector source)

/-- Where a value is read, as far as one is wanted. -/
def readValue (path : String) (fields : Fields) : Except Error (Option ValueSource) :=
  match (fields.get? "value").bind Json.string? with
  | none => .ok none
  | some written =>
    let spec := Text.trim written
    if spec = "" then .ok none
    else if spec = "text" then .ok (some .text)
    else match Text.cutAt? ':' spec.toList with
      | some (kind, name) =>
        if kind = "attr".toList ∧ name ≠ [] then .ok (some (.attribute (String.ofList name)))
        else .error (.shape path (.unsupportedValue spec))
      | none => .error (.shape path (.unsupportedValue spec))

/-- A change of the value, if the name and the parameters make one. -/
def readCleanup? (name : String) (parameters : String) : Option Cleanup :=
  let s := parameters.toList
  match Text.lower name with
  | "split" => do
    let (separator, index) ← Text.cutAtLast? ',' s
    let index ← Decimal.natBelow? Word.bound (Text.trimChars index)
    return .split (String.ofList separator) index
  | "replace" =>
    match Text.splitAtChar ',' s with
    | old :: new :: _ => some (.replace (String.ofList old) (String.ofList new))
    | _ => none
  | _ => none

/-- The changes of a value, in order; what is none is left out. -/
def readCleanups (path : String) (fields : Fields) : Except Error (List Cleanup) :=
  match fields.get? "postprocess" with
  | none => .ok []
  | some (.object members) =>
    .ok (members.filterMap fun (name, parameters) => parameters.string?.bind (readCleanup? name))
  | some _ => .error (.shape path .cleanupsNoObject)

/-- The comparison for a value, if one is wanted. -/
def readValidation (path : String) (fields : Fields) : Except Error (Option Validation) :=
  match fields.get? "validation" with
  | none => .ok none
  | some (.object members) =>
    match (Fields.get? members "equation").bind Json.string?,
        (Fields.get? members "targetValue").bind Json.string? with
    | some source, some target =>
      match Equation.parse source with
      | .ok equation =>
        .ok (some ⟨equation, if target = "parentValue" then .parentValue else .value⟩)
      | .error cause => .error (.equation source cause)
    | _, _ => .error (.shape path .validationIncomplete)
  | some _ => .error (.shape path .validationNoObject)

mutual

/-- The pattern of a document value; `path` says where it stands. -/
def ofJson (path : String) : Json → Except Error Pattern
  | .object members =>
    if (Fields.get? members "pattern").isSome then do
      match (Fields.get? members "pattern").bind Json.string? with
      | none => .error (.shape path .selectorNoText)
      | some source =>
        let selector ← compile source
        let value ← readValue path members
        let cleanups ← readCleanups path members
        let validation ← readValidation path members
        let inner ← innerOf path members
        return .selection source selector value cleanups validation inner
    else do
      let found ← membersOf path members
      return .group found
  | _ => .error (.shape path .noObject)

/-- The pattern for the matching elements, if there is one. -/
def innerOf (path : String) : List (String × Json) → Except Error (Option Pattern)
  | [] => .ok none
  | (name, value) :: rest =>
    if name = "children" then do
      let inner ← ofJson (path ++ ".children") value
      return some inner
    else innerOf path rest

/-- The named patterns of a group. -/
def membersOf (path : String) : List (String × Json) → Except Error (List (String × Pattern))
  | [] => .ok []
  | (name, value) :: rest => do
    let first ← ofJson (path ++ "." ++ name) value
    let others ← membersOf path rest
    return (name, first) :: others

end

/-- Reads a pattern. -/
def parse (source : String) : Except Error Pattern :=
  match Json.parse? source with
  | some value => ofJson "$" value
  | none => .error .json

end Harvest.Pattern

import Harvest.Json.Reader
import Harvest.Listing
import Harvest.Number.Word
import Harvest.Record
import Harvest.Store.Error

/-! Rules describe what to fetch from a site and how to extract records from it. -/

namespace Harvest

/-- Is a rule in use? -/
inductive RuleStatus where
  | active
  | cancelled
  deriving DecidableEq, Repr, Inhabited

/-- The written form of a status. -/
def RuleStatus.text : RuleStatus → String
  | active => "Active"
  | cancelled => "Cancelled"

/-- What to fetch from a site and how to extract records from it. -/
structure Rule where
  id : String := ""
  name : String := ""
  status : RuleStatus := .active
  /-- The extraction pattern as a document text. -/
  pattern : String := ""
  priority : Int := 0
  /-- The collection for the records. -/
  target : String := ""
  /-- The address of a page, with a placeholder for its number. -/
  linkPattern : String := ""
  /-- The fragments of the listing description. -/
  fragments : List String := []
  totalPages : Nat := 0
  /-- Request headers as a document text. -/
  headers : String := ""
  /-- Seconds between two generations of links; 0 stands for a single generation. -/
  frequency : Nat := 0
  /-- The last change, in milliseconds. -/
  updated : Int
  /-- The last generation of links, in milliseconds. -/
  generated : Option Int := none
  deriving DecidableEq, Repr, Inhabited

namespace Rule

/-- The names of the fields in a document, in order. -/
def fieldNames : List String :=
  ["id", "name", "status", "pattern", "priority", "targetLocation", "linkPattern", "deepLinkPattern",
    "totalPages", "headers", "frequency", "lastUpdate", "lastGenerated"]

/-- The fragments of a listing description: a list, or one text with commas between them. -/
def fragments? [Record.Source V] (value : V) : Option (List String) :=
  if Record.isNull value then some []
  else
    match Record.word? value with
    | some joined =>
      if Text.allBlank joined.toList then some []
      else some ((Text.splitAtChar ',' joined.toList).map String.ofList)
    | none => do
      (← Record.items? value).mapM Record.word?

/-- Reads a rule from a document; `now` is the time of a change that is not recorded. -/
def read? [Record.Source V] (now : Int) (document : V) : Option Rule := do
  let members ← Record.fields? fieldNames document
  let text (name : String) : Option String := Record.read? [name] "" Record.text? members
  return {
    id := ← text "id"
    name := ← text "name"
    status := ← Record.read? ["status"] .active
      (Record.choice? [("Active", RuleStatus.active), ("Cancelled", .cancelled)]) members
    pattern := ← text "pattern"
    priority := ← Record.read? ["priority", "priorty"] 0 (Record.int? (-2147483648) 2147483648) members
    target := ← text "targetLocation"
    linkPattern := ← text "linkPattern"
    fragments := ← Record.read? ["deepLinkPattern", "deeplinkPatterns"] [] fragments? members
    totalPages := ← Record.read? ["totalPages"] 0 (Record.nat? Word.halfBound) members
    headers := ← text "headers"
    frequency := ← Record.read? ["frequency"] 0 (Record.nat? Word.bound) members
    updated := ← Record.read? ["lastUpdate"] now Record.time? members
    generated := ← Record.read? ["lastGenerated"] none (Record.optional? Record.time?) members }

/-- Reads a rule from a JSON document. -/
def ofJson? (now : Int) (document : Json) : Option Rule :=
  read? now document

/-- The document of a rule. -/
def toJson (rule : Rule) : Json :=
  .object ([
    ("id", .string rule.id),
    ("name", .string rule.name),
    ("status", .string rule.status.text),
    ("pattern", .string rule.pattern),
    ("priority", .int rule.priority),
    ("targetLocation", .string rule.target),
    ("linkPattern", .string rule.linkPattern),
    ("deepLinkPattern", .array (rule.fragments.map .string)),
    ("totalPages", .int rule.totalPages),
    ("headers", .string rule.headers),
    ("frequency", .int rule.frequency),
    ("lastUpdate", .int rule.updated)] ++
    (rule.generated.map fun time => ("lastGenerated", Json.int time)).toList)

/-- The names of the fields that are missing for a worker. -/
def missing (rule : Rule) : List String :=
  [("id", rule.id), ("pattern", rule.pattern), ("targetLocation", rule.target)].filterMap
    fun (name, value) => if value = "" then some name else none

/-- Refuses a rule that a worker could not use. -/
def validate (rule : Rule) : Except StoreError Unit :=
  if rule.missing.isEmpty then .ok ()
  else .error (.invalidInput ("rule is missing required fields: " ++ Text.join ", " rule.missing))

/-- The text that stands for a page number. -/
def placeholder : String := "\x7bpage\x7d"

/-- The address of a page. -/
def pageUrl (rule : Rule) (page : Nat) : String :=
  Text.replaceAll placeholder (toString page) rule.linkPattern

/-- The addresses of all pages, counted from one. -/
def pageUrls (rule : Rule) : Except StoreError (List String) :=
  if Text.contains placeholder rule.linkPattern then
    .ok ((List.range rule.totalPages).map fun index => rule.pageUrl (index + 1))
  else
    .error (.invalidInput
      ("link pattern of rule " ++ rule.id ++ " has no " ++ placeholder ++ " placeholder"))

/-- The request headers of a text: an object of texts, and none if the text is anything else. -/
def headersOf (source : String) : Fields :=
  match Json.readAll? source.toList with
  | some (.object members) =>
    if members.all fun member => member.2.string?.isSome then Fields.extend [] members else []
  | _ => []

/-- The headers to send with every request. -/
def requestHeaders (rule : Rule) : Fields :=
  headersOf rule.headers

/-- The scheme and host of the site, unless the link pattern names no host. -/
def origin? (rule : Rule) : Option String := do
  let url ← Url.parse? (rule.pageUrl 1)
  let _ ← url.host
  return url.origin

/-- Should links be generated at the given time? -/
def isDue (rule : Rule) (now : Int) : Bool :=
  rule.status = .active &&
    match rule.generated with
    | none => true
    | some last =>
      -- Only whole seconds since the last generation count.
      rule.frequency ≠ 0 && Word.signed rule.frequency ≤ Int.tdiv (now - last) 1000

end Rule

end Harvest

import Harvest.Calendar
import Harvest.Command.Basic
import Harvest.Command.Path
import Harvest.Crawl.Round
import Harvest.Lease.Operation
import Harvest.Settings.Document
import Harvest.Settings.Environment

/-! What each command does, as a course of questions to the machine that it runs on. -/

namespace Harvest.Command

open Lease (Operation)

/-- What a command asks of its machine. -/
inductive Request where
  /-- The text of a file. -/
  | read (path : String)
  /-- Is there a file or a directory? -/
  | holds (path : String)
  /-- Writes a file; the answer tells whether it worked. -/
  | write (path text : String)
  /-- Makes a directory and those around it. -/
  | makeDirectory (path : String)
  /-- The names of the files of a directory. -/
  | files (directory : String)
  /-- A variable of the environment. -/
  | environment (name : String)
  /-- Prints a line. -/
  | print (line : String)
  /-- An identifier that was never given out before. -/
  | freshId
  /-- The time in milliseconds. -/
  | time
  /-- Can requests be listened for at an address? -/
  | listen (address : String)
  /-- The outcomes of the last round of crawls, for a coordinator elsewhere or for one in this process. -/
  | crawl (once elsewhere : Bool) (settings : Settings)
  deriving Repr, Inhabited

/-- The answers to a request; none tells that it failed. -/
abbrev Request.Answer : Request → Type
  | read _ => Option String
  | holds _ => Bool
  | write .. => Bool
  | makeDirectory _ => Bool
  | files _ => Option (List String)
  | environment _ => Option String
  | print _ => Unit
  | freshId => String
  | time => Int
  | listen _ => Bool
  | crawl .. => List Crawl.InstanceOutcome

/-- What is at the bottom of a failure. -/
inductive Cause where
  /-- A file or an address cannot be used. -/
  | io
  /-- A text is no document of the format, or has another form. -/
  | json
  | yaml
  | pattern (cause : Pattern.Error)
  | store (cause : StoreError)
  /-- A number has no word, so that the command breaks down. -/
  | overflow
  deriving DecidableEq, Repr, Inhabited

/-- Why a command fails: what it was about, outermost first, and the cause if there is one behind that. -/
structure Failure where
  contexts : List String := []
  cause : Option Cause := none
  deriving DecidableEq, Repr, Inhabited

/-- The course of a command, which may fail. -/
abbrev Procedure (α : Type) := ExceptT Failure (Course Request Request.Answer) α

namespace Procedure

/-- Asks the machine. -/
def ask (request : Request) : Procedure request.Answer :=
  ExceptT.lift (Course.query request)

/-- Prints a line. -/
def print (line : String) : Procedure Unit :=
  ask (.print line)

/-- Fails for a cause. -/
def fail (contexts : List String) (cause : Option Cause) : Procedure α :=
  throw { contexts, cause }

/-- Goes on with a result, or fails for its cause. -/
def succeed (contexts : List String) (cause : ε → Cause) : Except ε α → Procedure α
  | .ok result => pure result
  | .error found => fail contexts (some (cause found))

/-! ## Settings -/

/-- The directory of the program's settings, with its directory of profiles made if that is possible. -/
def directory : Procedure String := do
  let home := (← ask (.environment "HOME")).filter (· ≠ "")
  let base := (← ask (.environment "XDG_CONFIG_HOME")).filter Path.isAbsolute
  let path := match home with
    | some home => Path.inside (base.getD (Path.inside home ".config")) "lease-crawler"
    | none => "./config"
  let _ ← ask (.makeDirectory (Path.inside path "profiles"))
  return path

/-- The file of a profile inside the directory of the settings. -/
def profilePath (directory name : String) : String :=
  Path.inside (Path.inside directory "profiles") (name ++ ".yaml")

/-- Reads the settings of a file. -/
def readSettings (path : String) : Procedure Settings := do
  match ← ask (.read path) with
  | none => fail ["Failed to read configuration file: " ++ path] (some .io)
  | some text =>
    match Settings.parse? text with
    | some settings => return settings
    | none => fail ["Failed to parse configuration file: " ++ path] (some .yaml)

/-- Writes settings to a file, whose directory is made. -/
def writeSettings (path : String) (settings : Settings) : Procedure Unit := do
  let parent := Path.parent path
  if parent ≠ "" then
    unless ← ask (.holds parent) do
      unless ← ask (.makeDirectory parent) do
        fail ["Failed to create directory: " ++ parent] (some .io)
  unless ← ask (.write path settings.render) do
    fail ["Failed to write configuration file: " ++ path] (some .io)

/-- The settings that hold if no file and no profile is named; their file is written when it is missing. -/
def defaultSettings : Procedure Settings := do
  let path := Path.inside (← directory) "default.yaml"
  if ← ask (.holds path) then readSettings path
  else
    writeSettings path {}
    return {}

/-- The settings of a profile. -/
def profileSettings (name : String) : Procedure Settings := do
  let path := profilePath (← directory) name
  if ← ask (.holds path) then readSettings path
  else fail ["Profile '" ++ name ++ "' not found"] none

/-- The variables that take precedence over settings. -/
def environment : List String → Procedure (List (String × String))
  | [] => return []
  | name :: rest => do
    let found ← ask (.environment name)
    let others ← environment rest
    return (found.map (name, ·)).toList ++ others

/-- The settings of a command. -/
def settings (command : Command) : Procedure Settings := do
  let found ← match command.file, command.profile with
    | some path, _ => readSettings path
    | none, some name => profileSettings name
    | none, none => defaultSettings
  let known ← environment Settings.variableNames
  return found.override fun name => known.lookup name

/-- Writes a profile with the default settings. -/
def initProfile (name : String) : Procedure Unit := do
  let path := profilePath (← directory) name
  writeSettings path {}
  print ("Profile '" ++ name ++ "' written to " ++ path)

/-- Lists the profiles in the order of their names. -/
def listProfiles : Procedure Unit := do
  let path := Path.inside (← directory) "profiles"
  let names ←
    if ← ask (.holds path) then
      match ← ask (.files path) with
      | some names => pure names
      | none => fail [] (some .io)
    else pure []
  let profiles := names.filterMap fun name =>
    match Path.splitName name with
    | (stem, some "yaml") => some stem
    | _ => none
  if profiles.isEmpty then print "No configuration profiles found"
  else
    print "Available profiles:"
    (profiles.mergeSort fun a b => !decide (b < a)).forM fun name => print ("  - " ++ name)

/-! ## Stores -/

/-- An empty store of this process, if the settings ask for one. No database server can be reached. -/
def openStore (context : String) (storage : StorageSettings) : Procedure Store :=
  if storage.backend = "memory" then pure {}
  else if storage.backend = "mongodb" then
    fail [context] (some (.store (.backend "no database server can be reached")))
  else fail [context, "Unsupported storage backend: " ++ storage.backend] none

/-- An empty store for rules and links. -/
def openRules (settings : Settings) : Procedure Store :=
  openStore "Failed to open the document store" settings.storage

/-- Follows an operation on a store of this process. -/
def follow (store : Store) : Course Lease.Question Lease.Question.Answer α →
    Course Request Request.Answer (α × Store)
  | .done result => .done (result, store)
  | .ask (.store call) next =>
    let (result, store) := store.perform call
    follow store (next result)
  | .ask .freshId next => .ask .freshId fun id => follow store (next id)

/-- Carries an operation out on a store of this process. -/
def perform (contexts : List String) (store : Store) (operation : Operation α) :
    Procedure (α × Store) := do
  let (result, store) ← ExceptT.lift (follow store operation.run)
  return (← succeed contexts .store result, store)

/-! ## Rules -/

/-- The rule of a file; its name tells the format. -/
def readRule (path : String) : Procedure Rule := do
  let now ← ask .time
  match ← ask (.read path) with
  | none => fail ["Failed to read rule file: " ++ path] (some .io)
  | some text =>
    let contexts := ["Failed to parse rule file: " ++ path]
    if Path.extension? path = some "json" then
      match (Json.readAll? text.toList).bind (Rule.ofJson? now) with
      | some rule => return rule
      | none => fail contexts (some .json)
    else
      match (Yaml.Node.parse? text).bind (Rule.read? now) with
      | some rule => return rule
      | none => fail contexts (some .yaml)

/-- Stores the rule of a file, if its patterns can be read. -/
def addRule (settings : Settings) (path : String) (generate : Bool) : Procedure Unit := do
  let rule ← readRule path
  let _ ← succeed ["Rule " ++ rule.name ++ " has an invalid extraction pattern"] .pattern
    (Pattern.parse rule.pattern)
  let _ ← succeed ["Rule " ++ rule.name ++ " has an invalid deep link pattern"] .pattern
    (Listing.parse? rule.fragments)
  let store ← openRules settings
  let now ← ask .time
  let (rule, store) ← perform ["Failed to store rule"] store (Lease.upsertRule now rule)
  print ("Rule stored with ID: " ++ rule.id)
  if generate then
    let (count, _) ← perform [] store (Lease.generateLinks now rule.id)
    print ("Generated " ++ toString count ++ " links")

/-- A text that fills nine columns at least. -/
def column (text : String) : String :=
  text ++ String.ofList (List.replicate (9 - text.length) ' ')

/-- The line of a rule in a listing. -/
def ruleLine (rule : Rule) : String :=
  rule.id ++ "  " ++ column rule.status.text ++ "  " ++ rule.name ++ "  -> " ++ rule.target ++ "  ("
    ++ toString rule.totalPages ++ " pages, every " ++ toString rule.frequency ++ "s, generated "
    ++ (rule.generated.map Calendar.render).getD "never" ++ ")"

/-- The line of a link in a listing. -/
def linkLine (link : Link) : String :=
  link.id ++ "  " ++ column link.status.text ++ "  " ++ (if link.worker = "" then "-" else link.worker)
    ++ "  " ++ Calendar.render link.updated ++ "  " ++ link.url

/-- The page of a number, as large as the settings say. -/
def pageOf (settings : Settings) (number : Nat) : Procedure Page :=
  match Page.numbered number settings.storage.pageSize with
  | some page => pure page
  | none => fail [] (some .overflow)

/-- Carries out a command on rules. -/
def rule (settings : Settings) : RuleCommand → Procedure Unit
  | .add file generate => addRule settings file generate
  | .list page => do
    let store ← openRules settings
    let page ← pageOf settings page
    let (rules, _) ← perform [] store (Lease.listRules (← ask .time) page)
    if rules.isEmpty then print "No rules found"
    else rules.forM fun rule => print (ruleLine rule)
  | .generate id => do
    let store ← openRules settings
    let (count, _) ← perform ["Failed to generate links for rule " ++ id] store
      (Lease.generateLinks (← ask .time) id)
    print ("Generated " ++ toString count ++ " links for rule " ++ id)
  | .cancel id => do
    let store ← openRules settings
    let (count, _) ← perform ["Failed to cancel rule " ++ id] store (Lease.cancelRule (← ask .time) id)
    print ("Rule " ++ id ++ " cancelled, " ++ toString count ++ " links cancelled")
  | .links id page => do
    let store ← openRules settings
    let page ← pageOf settings page
    let (links, _) ← perform [] store (Lease.linksOf (← ask .time) id page)
    links.forM fun link => print (linkLine link)

/-! ## Crawls -/

/-- Listens for requests of workers. -/
def listen (settings : Settings) : Procedure Unit := do
  unless ← ask (.listen settings.api.bindAddress) do
    fail [] (some .io)

/-- Crawls in rounds; a single round has to succeed. -/
def crawl (once elsewhere : Bool) (settings : Settings) : Procedure Unit := do
  let outcomes ← ask (.crawl once elsewhere settings)
  if once && !Crawl.succeeded outcomes then fail [Crawl.roundMessage outcomes] none

/-- Crawls for a coordinator elsewhere. -/
def work (settings : Settings) (once : Bool) (ruleId : Option String) : Procedure Unit := do
  let worker := { settings.worker with ruleId := ruleId.or settings.worker.ruleId }
  let _ ← openStore "Failed to open the result store" settings.storage
  crawl once true { settings with worker }

/-! ## All commands -/

/-- What a command does. -/
def ofCommand (command : Command) : Procedure Unit := do
  match command.action with
  | .listProfiles => listProfiles
  | .initProfile name => initProfile name
  | .showSettings => print (← settings command).render
  | .serve => do
    let settings ← settings command
    let _ ← openRules settings
    listen settings
  | .work once ruleId => do
    work (← settings command) once ruleId
  | .run once => do
    let settings ← settings command
    let _ ← openRules settings
    listen settings
    crawl once false settings
  | .rule inner => do
    rule (← settings command) inner

end Procedure

end Harvest.Command

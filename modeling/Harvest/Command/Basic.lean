import Harvest.Command.Arguments

/-! The commands of the program. -/

namespace Harvest

/-- What to do with the rules of a store. -/
inductive RuleCommand where
  /-- Stores the rule of a file, perhaps with its links. -/
  | add (file : String) (generate : Bool)
  | list (page : Nat)
  | generate (id : String)
  | cancel (id : String)
  | links (id : String) (page : Nat)
  deriving DecidableEq, Repr, Inhabited

/-- What to do. -/
inductive Action where
  /-- Answers workers. -/
  | serve
  /-- Crawls for a coordinator elsewhere. -/
  | work (once : Bool) (ruleId : Option String)
  /-- Answers workers and crawls in the same process. -/
  | run (once : Bool)
  | rule (command : RuleCommand)
  | listProfiles
  | initProfile (name : String)
  | showSettings
  deriving DecidableEq, Repr, Inhabited

/-- A command with the settings that it asks for. -/
structure Command where
  action : Action
  /-- The file with the settings. -/
  file : Option String := none
  /-- The name of the profile with the settings, if no file is named. -/
  profile : Option String := none
  verbose : Bool := false
  /-- Where messages are kept. -/
  logFile : Option String := none
  deriving DecidableEq, Repr, Inhabited

namespace Command

/-- The options that are known everywhere. -/
def common : List Flag :=
  [{ name := "config", letter := some 'c', kind := .path },
    { name := "profile", letter := some 'p', kind := .text },
    { name := "verbose", letter := some 'v' },
    { name := "log-file", kind := .path },
    { name := "help", letter := some 'h', kind := .help }]

/-- A level of commands. -/
def group (commands : List (String × Grammar)) (flags : List Flag) : Grammar :=
  .level (common ++ flags) [] commands

/-- A command with options and operands of its own. -/
def leaf (flags : List Flag) (operands : List String) : Grammar :=
  .level (common ++ flags) operands []

/-- The option that asks for a page of a listing. -/
def pageFlag : Flag := { name := "page", kind := .number }

/-- The option that stops after one round. -/
def onceFlag : Flag := { name := "once" }

/-- The grammar of the program's arguments. -/
def grammar : Grammar :=
  group
    [("serve", leaf [] []),
      ("work", leaf [onceFlag, { name := "rule", letter := some 'r', kind := .text }] []),
      ("run", leaf [onceFlag] []),
      ("rule", group
        [("add", leaf
            [{ name := "file", letter := some 'f', kind := .path, required := true },
              { name := "generate", letter := some 'g' }] []),
          ("list", leaf [pageFlag] []),
          ("generate", leaf [] ["rule_id"]),
          ("cancel", leaf [] ["rule_id"]),
          ("links", leaf [pageFlag] ["rule_id"])] []),
      ("config", leaf
        [{ name := "init", kind := .text }, { name := "list", letter := some 'l' }] [])]
    [{ name := "version", letter := some 'V', kind := .version }]

/-- What arguments ask for. -/
def actionOf (arguments : Arguments) : Action :=
  let once := arguments.has "once"
  let id := arguments.operand?.getD ""
  let page := (arguments.number? "page").getD 1
  match arguments.commands with
  | ["serve"] => .serve
  | ["work"] => .work once (arguments.value? "rule")
  | ["run"] => .run once
  | ["rule", "add"] => .rule (.add ((arguments.value? "file").getD "") (arguments.has "generate"))
  | ["rule", "list"] => .rule (.list page)
  | ["rule", "generate"] => .rule (.generate id)
  | ["rule", "cancel"] => .rule (.cancel id)
  | ["rule", "links"] => .rule (.links id page)
  | _ =>
    if arguments.has "list" then .listProfiles
    else
      match arguments.value? "init" with
      | some name => .initProfile name
      | none => .showSettings

/-- The command that the words of a command line stand for. -/
def parse (words : List String) : Except Misuse Command := do
  let arguments ← Arguments.read grammar words
  return {
    action := actionOf arguments
    file := arguments.value? "config"
    profile := arguments.value? "profile"
    verbose := arguments.has "verbose"
    logFile := arguments.value? "log-file" }

end Command

end Harvest

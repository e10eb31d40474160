import Harvest.Command.Procedure
import Harvest.Crawl.Isolated
import Std.Time.DateTime.Timestamp

/-! The command line program. It has no network: it cannot be listened to, and its crawls find no
connection. -/

namespace Harvest.Command

/-- The time in milliseconds. -/
def currentTime : IO Int := do
  return (← Std.Time.Timestamp.now).toMillisecondsSinceUnixEpoch.val

/-- A number below 2¹²⁰. -/
def randomNumber : IO Nat := do
  let bytes ← IO.getRandomBytes 15
  return bytes.toList.foldl (fun value byte => 256 * value + byte.toNat) 0

/-- The result of an action, or none if it fails. -/
def attempt (action : IO α) : IO (Option α) := do
  try
    return some (← action)
  catch _ =>
    return none

/-- The outcomes of the last round. Without `once` there is none. -/
partial def crawlRounds (once elsewhere : Bool) (settings : Settings) : IO (List Crawl.InstanceOutcome) := do
  let time ← currentTime
  let start ← randomNumber
  let idOf (n : Nat) : String := Identifier.ofNumber (start + n)
  let outcomes := Crawl.Isolated.round settings time idOf elsewhere
  if once then return outcomes
  else
    unless Crawl.succeeded outcomes do
      IO.sleep (seconds settings.worker.roundBackoff).toUInt32
    crawlRounds once elsewhere settings

/-- Answers a request of a command. -/
def answer : (request : Request) → IO request.Answer
  | .read path => attempt (IO.FS.readFile path)
  | .holds path => do
    ((← IO.currentDir) / path).pathExists
  | .write path text => do
    return (← attempt (IO.FS.writeFile path text)).isSome
  | .makeDirectory path => do
    return (← attempt (IO.FS.createDirAll path)).isSome
  | .files directory => attempt do
    let entries ← ((← IO.currentDir) / directory).readDir
    let files ← entries.toList.filterM fun entry => return !(← entry.path.isDir)
    return files.map (·.fileName)
  | .environment name => IO.getEnv name
  | .print line => IO.println line
  | .freshId => return Identifier.ofNumber (← randomNumber)
  | .time => currentTime
  | .listen _ => return false
  | .crawl once elsewhere settings => crawlRounds once elsewhere settings

/-- Follows a course to its end. -/
def follow : Course Request Request.Answer α → IO α
  | .done result => return result
  | .ask request next => do
    let reply ← answer request
    follow (next reply)

/-- What is said of arguments that make no command. -/
def Misuse.message : Misuse → String
  | help | helpInstead => "usage: harvest [OPTIONS] serve|work|run|rule|config [OPTIONS]"
  | version => "harvest 0.1.0"
  | missingCommand => "a command is missing"
  | missingArgument => "an argument is missing"
  | unknownArgument => "an argument is not known"
  | unknownCommand => "a command is not known"
  | noValue => "a value is missing"
  | badValue => "a value is no number"
  | repeated => "an option is given twice"
  | needlessValue => "an option takes no value"

/-- The wording of a cause. -/
def Cause.message : Cause → String
  | io => "a file or an address cannot be used"
  | json => "the text is not of the expected form"
  | yaml => "the text is not of the expected form"
  | pattern cause => cause.message
  | store cause => cause.message
  | overflow => "a number is too large"

/-- The wording of a failure. -/
def Failure.message (failure : Failure) : String :=
  Text.join ": " (failure.contexts ++ (failure.cause.map Cause.message).toList)

end Harvest.Command

open Harvest.Command in
/-- Carries out the command that the arguments stand for. -/
def main (words : List String) : IO UInt32 := do
  match Harvest.Command.parse words with
  | .error misuse =>
    if misuse = .help || misuse = .version then
      IO.println misuse.message
      return 0
    else
      IO.eprintln misuse.message
      return 2
  | .ok command =>
    match ← follow (Procedure.ofCommand command).run with
    | .ok () => return 0
    | .error failure =>
      IO.eprintln failure.message
      return if failure.cause = some .overflow then 101 else 1

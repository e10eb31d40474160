import Harvest.Command.Files
import Harvest.Command.Procedure
import Harvest.Crawl.Isolated

/-! A machine kept in memory, on which commands run. It has no network. -/

namespace Harvest.Command

/-- What a command may find on a machine, and what it leaves there. -/
structure Machine where
  files : Files := {}
  /-- The directory that paths start from. -/
  place : List String := []
  environment : List (String × String) := []
  time : Int := 0
  /-- The identifier of each number. -/
  idOf : Nat → String := Identifier.ofNumber
  /-- The lines printed so far. -/
  printed : List String := []
  /-- The identifiers given out so far. -/
  minted : Nat := 0
  deriving Inhabited

namespace Machine

/-- Does an address with a port belong to a machine without a network? -/
def hasAddress (address : String) : Bool :=
  match Text.cutAtLast? ':' address.toList with
  | some (host, port) =>
    ["0.0.0.0", "127.0.0.1", "localhost", "[::]", "[::1]"].contains (String.ofList host)
      && (Decimal.natBelow? Word.quarterBound port).isSome
  | none => false

/-- The file system after a change, and whether the change was possible. -/
def change (machine : Machine) : Option Files → Bool × Machine
  | some files => (true, { machine with files })
  | none => (false, machine)

/-- Answers a request. -/
def answer (machine : Machine) : (request : Request) → request.Answer × Machine
  | .read path => (machine.files.text? (Path.resolve machine.place path), machine)
  | .holds path => (machine.files.holds (Path.resolve machine.place path), machine)
  | .write path text => machine.change (machine.files.write? (Path.resolve machine.place path) text)
  | .makeDirectory path => machine.change (machine.files.makeDirectory? (Path.resolve machine.place path))
  | .files path => (machine.files.filesOf? (Path.resolve machine.place path), machine)
  | .environment name => (machine.environment.lookup name, machine)
  | .print line => ((), { machine with printed := machine.printed ++ [line] })
  | .freshId => (machine.idOf machine.minted, { machine with minted := machine.minted + 1 })
  | .time => (machine.time, machine)
  | .listen address => (hasAddress address, machine)
  | .crawl _ elsewhere settings =>
    (Crawl.Isolated.round settings machine.time machine.idOf elsewhere, machine)

/-- Runs a procedure to its end. -/
def run (machine : Machine) (procedure : Procedure α) : Except Failure α × Machine :=
  Course.run answer procedure.run machine

/-- What has been printed. -/
def output (machine : Machine) : String :=
  String.join (machine.printed.map (· ++ "\n"))

end Machine

end Harvest.Command

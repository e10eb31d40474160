import Harvest.Number.Decimal
import Harvest.Number.Word

/-! The arguments of a command line, read by a grammar of options, operands and nested commands. An option
may stand at every level that knows it; its value follows in the same word or is the next word. -/

namespace Harvest.Command

/-- Why arguments make no command. -/
inductive Misuse where
  | help
  | version
  /-- Nothing was asked for, so the usage is shown. -/
  | helpInstead
  | missingCommand
  | missingArgument
  | unknownArgument
  | unknownCommand
  /-- An option lacks its value, or a path is empty. -/
  | noValue
  /-- A value does not read as what is expected. -/
  | badValue
  | repeated
  /-- A value for an option that takes none. -/
  | needlessValue
  deriving DecidableEq, Repr, Inhabited

/-- What an option takes. -/
inductive Kind where
  | flag
  | help
  | version
  | text
  /-- A text that is not empty. -/
  | path
  | number
  deriving DecidableEq, Repr, Inhabited

/-- Does an option take a value? -/
def Kind.takesValue : Kind → Bool
  | text | path | number => true
  | _ => false

/-- An option, which goes by its name behind two dashes or by a letter behind one. -/
structure Flag where
  name : String
  letter : Option Char := none
  kind : Kind := .flag
  required : Bool := false
  deriving DecidableEq, Repr, Inhabited

/-- What a level of the command line knows. -/
inductive Grammar where
  | level (flags : List Flag) (operands : List String) (commands : List (String × Grammar))
  deriving Repr, Inhabited

namespace Grammar

/-- The options of a level. -/
def flags : Grammar → List Flag
  | level flags _ _ => flags

/-- The names of the operands of a level; all of them are required. -/
def operands : Grammar → List String
  | level _ operands _ => operands

/-- The commands of a level; one of them is required if there are any. -/
def commands : Grammar → List (String × Grammar)
  | level _ _ commands => commands

/-- Shows the words behind `help` a command? -/
def knows (grammar : Grammar) : List String → Bool
  | [] => true
  | word :: rest =>
    match grammar.commands.lookup word with
    | some inner => inner.knows rest
    | none => word = "help" && !grammar.commands.isEmpty && rest.isEmpty

end Grammar

/-- What has been read at one level. -/
structure Level where
  /-- Options with their values; an option without one has an empty value. -/
  values : List (String × String) := []
  operands : List String := []
  /-- An option whose value is not yet taken in, or has yet to come. -/
  pending : Option (Flag × Option String) := none
  /-- Do only operands follow? -/
  onlyOperands : Bool := false
  deriving Repr, Inhabited

namespace Level

/-- Does a value suit an option? -/
def check (flag : Flag) (value : String) : Except Misuse Unit :=
  match flag.kind with
  | .path => if value = "" then .error .noValue else .ok ()
  | .number => if (Decimal.natBelow? Word.bound value.toList).isNone then .error .badValue else .ok ()
  | _ => .ok ()

/-- Takes an option in, which is given once at most. -/
def record (level : Level) (flag : Flag) (value : String) : Except Misuse Level := do
  if (level.values.lookup flag.name).isSome then throw .repeated
  check flag value
  return { level with values := level.values ++ [(flag.name, value)] }

/-- Takes the pending option in. -/
def settle (level : Level) : Except Misuse Level :=
  match level.pending with
  | none => .ok level
  | some (_, none) => .error .noValue
  | some (flag, some value) => { level with pending := none }.record flag value

/-- Is the next word the value of an option? -/
def expectsValue (level : Level) : Bool :=
  level.pending.any fun pending => pending.2.isNone

/-- Meets an option, perhaps with a value in the same word. -/
def meet (level : Level) (flag : Flag) (value : Option String) : Except Misuse Level := do
  if flag.kind.takesValue then
    let level ← level.settle
    match value with
    | some value => level.record flag value
    | none => return { level with pending := some (flag, none) }
  else if value.isSome then throw .needlessValue
  else
    let level ← level.settle
    match flag.kind with
    | .help => throw .help
    | .version => throw .version
    | _ => level.record flag ""

/-- Reads letters behind a single dash. A letter that takes a value takes the rest of the word. -/
def letters (flags : List Flag) (level : Level) : List Char → Except Misuse Level
  | [] => .ok level
  | c :: rest =>
    match flags.find? (·.letter = some c) with
    | none => .error .unknownArgument
    | some flag =>
      if flag.kind.takesValue then
        level.meet flag (match rest with
          | [] => none
          | '=' :: value => some (String.ofList value)
          | value => some (String.ofList value))
      else do
        letters flags (← level.meet flag none) rest

/-- Reads a name behind two dashes, with a value behind an equals sign. -/
def named (flags : List Flag) (level : Level) (word : List Char) : Except Misuse Level :=
  let name := String.ofList (word.takeWhile (· ≠ '='))
  match flags.find? (·.name = name) with
  | none => .error .unknownArgument
  | some flag =>
    level.meet flag (match word.dropWhile (· ≠ '=') with
      | _ :: value => some (String.ofList value)
      | [] => none)

/-- Reads an operand, if the level has one more. -/
def operand (grammar : Grammar) (level : Level) (word : String) : Except Misuse Level := do
  if level.operands.length < grammar.operands.length then
    let level ← level.settle
    return { level with operands := level.operands ++ [word] }
  else if grammar.commands.isEmpty then throw .unknownArgument
  else if level.onlyOperands ∧ (word = "help" ∨ (grammar.commands.lookup word).isSome) then
    throw .unknownArgument
  else throw .unknownCommand

/-- Is everything there that a level requires? -/
def finish (grammar : Grammar) (level : Level) : Except Misuse Level := do
  let level ← level.settle
  if !grammar.commands.isEmpty then
    throw (if level.values.isEmpty && level.operands.isEmpty then .helpInstead else .missingCommand)
  let given (flag : Flag) : Bool := (level.values.lookup flag.name).isSome
  if grammar.flags.any (fun flag => flag.required && !given flag)
      || level.operands.length < grammar.operands.length then
    throw .missingArgument
  return level

end Level

/-- What has been read: the commands with their levels, the innermost one last. -/
structure Arguments where
  commands : List String
  levels : List Level
  deriving Repr, Inhabited

namespace Arguments

/-- Reads on at a level. -/
def readLevel (grammar : Grammar) (level : Level) : List String → Except Misuse Arguments
  | [] => do
    return { commands := [], levels := [← level.finish grammar] }
  | word :: rest =>
    if level.onlyOperands then do
      readLevel grammar (← level.operand grammar word) rest
    else
      match (if level.expectsValue then none else grammar.commands.lookup word) with
      | some inner => do
        let found ← readLevel inner {} rest
        -- What is pending here is looked at when the command behind it has been read.
        let level ← level.settle
        return { commands := word :: found.commands, levels := level :: found.levels }
      | none =>
        if word = "help" && !level.expectsValue && !grammar.commands.isEmpty then
          .error (if grammar.knows rest then .help else .unknownCommand)
        else
          match word.toList with
          | ['-', '-'] => readLevel grammar { level with onlyOperands := true } rest
          | '-' :: '-' :: name => do
            readLevel grammar (← level.named grammar.flags name) rest
          | '-' :: c :: cs => do
            readLevel grammar (← level.letters grammar.flags (c :: cs)) rest
          | _ =>
            match level.pending with
            | some (flag, none) =>
              readLevel grammar { level with pending := some (flag, some word) } rest
            | _ => do
              readLevel grammar (← level.operand grammar word) rest

/-- Reads the words of a command line. -/
def read (grammar : Grammar) (words : List String) : Except Misuse Arguments :=
  readLevel grammar {} words

/-- The value of an option; the innermost level that has one gives it. -/
def value? (arguments : Arguments) (name : String) : Option String :=
  arguments.levels.reverse.findSome? fun level => level.values.lookup name

/-- Is an option given? -/
def has (arguments : Arguments) (name : String) : Bool :=
  (arguments.value? name).isSome

/-- The number that an option gives. -/
def number? (arguments : Arguments) (name : String) : Option Nat :=
  (arguments.value? name).bind fun value => Decimal.natBelow? Word.bound value.toList

/-- The first operand. -/
def operand? (arguments : Arguments) : Option String :=
  arguments.levels.findSome? fun level => level.operands.head?

end Arguments

end Harvest.Command

import Harvest.Crawl.Run

/-! A round starts a number of crawls, each of a rule that the coordinator picks. It succeeds if one of them
comes to its end. -/

namespace Harvest.Crawl

/-- How a crawl of a round ended. -/
inductive InstanceOutcome where
  | completed (report : Report)
  /-- There was no rule with work. -/
  | idle
  | failed (message : String)
  deriving DecidableEq, Repr, Inhabited

/-- Whatever answers a round. -/
structure RoundSurroundings (σ : Type) extends Surroundings σ where
  fetchRule : σ → Option String → Except Service.JobError (Option Rule) × σ
  /-- A name for a worker. -/
  workerName : σ → String × σ

/-- The time after which a crawl is cut off in milliseconds. -/
def hardLimit (settings : WorkerSettings) : Nat :=
  seconds (settings.maxRuntime + settings.shutdownGrace)

/-- One crawl of a round. A crawl that may not take any time is cut off before its end. -/
def runInstance (world : RoundSurroundings σ) (fuel : Nat) (settings : WorkerSettings)
    (proxy : ProxySettings) (here : σ) : InstanceOutcome × σ :=
  match world.fetchRule here settings.ruleId with
  | (.error cause, here) => (.failed cause.message, here)
  | (.ok none, here) => (.idle, here)
  | (.ok (some rule), here) =>
    let (worker, here) := world.workerName here
    match run world.toSurroundings fuel rule worker settings proxy here with
    | (some (.error failure), here) => (.failed failure.message, here)
    | (some (.ok report), here) =>
      (if hardLimit settings = 0 then .failed "stopped after 0ns" else .completed report, here)
    | (none, here) =>
      (.failed ("stopped after " ++ toString (settings.maxRuntime + settings.shutdownGrace) ++ "s"), here)

/-- The crawls of a round, one after the other. -/
def runInstances (world : RoundSurroundings σ) (fuel : Nat) (settings : WorkerSettings)
    (proxy : ProxySettings) : Nat → σ → List InstanceOutcome × σ
  | 0, here => ([], here)
  | more + 1, here =>
    let (outcome, here) := runInstance world fuel settings proxy here
    let (others, here) := runInstances world fuel settings proxy more here
    (outcome :: others, here)

/-- A round; it has one crawl at least. -/
def runRound (world : RoundSurroundings σ) (fuel : Nat) (settings : WorkerSettings) (proxy : ProxySettings)
    (here : σ) : List InstanceOutcome × σ :=
  runInstances world fuel settings proxy (max settings.instances 1) here

/-- Did a crawl of the round come to its end? -/
def succeeded (outcomes : List InstanceOutcome) : Bool :=
  outcomes.any fun outcome => match outcome with
    | .completed _ => true
    | _ => false

/-- A character inside quotes. -/
def quotedChar (c : Char) : List Char :=
  if c = '"' ∨ c = '\\' then ['\\', c]
  else if c = '\n' then ['\\', 'n']
  else if c = '\r' then ['\\', 'r']
  else if c = '\t' then ['\\', 't']
  else if c.toNat = 0 then ['\\', '0']
  else if c.toNat < 0x20 ∨ (0x7F ≤ c.toNat ∧ c.toNat < 0xA0) then
    '\\' :: 'u' :: '\x7b' :: Nat.toDigits 16 c.toNat ++ ['\x7d']
  else [c]

/-- A text in quotes. -/
def quoted (s : String) : String :=
  String.ofList ('"' :: s.toList.flatMap quotedChar ++ ['"'])

/-- An outcome in a message. -/
def InstanceOutcome.text : InstanceOutcome → String
  | idle => "Idle"
  | failed message => "Failed(" ++ quoted message ++ ")"
  | completed report => "Completed(" ++ quoted report.ruleId ++ ")"

/-- What is said of a round that did not succeed. -/
def roundMessage (outcomes : List InstanceOutcome) : String :=
  "No worker instance completed a crawl: [" ++ Text.join ", " (outcomes.map (·.text)) ++ "]"

end Harvest.Crawl

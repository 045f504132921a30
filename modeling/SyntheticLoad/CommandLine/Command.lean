import SyntheticLoad.CommandLine.Scan
import SyntheticLoad.Load.Plan
import SyntheticLoad.Replay.Plan
import SyntheticLoad.Scenario.Plan

/-!
# Commands

There are four commands: `send` runs a load, `replay` a replay, `scenario` a
scenario, and `sample` prints envelopes. Each has options of its own. What is not
given is taken from the environment where there is a variable for it, and otherwise
from a default; a variable that is set to the empty text is set.
-/

namespace SyntheticLoad.CommandLine

open Time

namespace CommandName

/-- All commands. -/
def all : List CommandName := [.send, .replay, .scenario, .sample]

/-- The name of a command. -/
def word : CommandName → String
  | send => "send"
  | replay => "replay"
  | scenario => "scenario"
  | sample => "sample"

/-- The options that say where envelopes are delivered. -/
def targetOptions : List OptionName := [.endpoint, .authToken, .header, .captureBody]

/-- The options of a command. -/
def options : CommandName → List OptionName
  | send => targetOptions ++
    [.requests, .concurrency, .shape, .seed, .progressInterval, .metricsOutput, .help]
  | replay => targetOptions ++
    [.count, .delayMs, .shape, .seed, .schemaName, .metricsOutput, .help]
  | scenario => [.baseUrl, .users, .iterations, .waitMinMs, .waitMaxMs, .password, .help]
  | sample => [.shape, .seed, .count, .pretty, .help]

end CommandName

/-- The variables of the environment that matter. -/
structure Variables where
  endpoint : Option String
  authToken : Option String
  baseUrl : Option String
  deriving DecidableEq, Repr

namespace Variables

/-- The name of the variable for the address of a target. -/
def endpointName : String := "INGEST_ENDPOINT"

/-- The name of the variable for the token. -/
def authTokenName : String := "INGEST_AUTH_TOKEN"

/-- The name of the variable for the address of a service. -/
def baseUrlName : String := "INGEST_BASE_URL"

/-- The variables, by what is found under their names. -/
def ofLookup (find : String → Option String) : Variables :=
  ⟨find endpointName, find authTokenName, find baseUrlName⟩

end Variables

/-- What `sample` is to print. -/
structure SamplePlan where
  selector : Selector
  /-- The seed; one is drawn if there is none. -/
  seed : Option UInt64
  /-- The number of envelopes. -/
  count : UInt64
  /-- Whether there is a line for each member. -/
  pretty : Bool
  deriving DecidableEq, Repr

/-- A command with all that it needs. -/
inductive Command
  /-- A load, with the path of the file for its summary. -/
  | send (target : Target) (plan : LoadPlan) (metrics : Option String)
  /-- A replay, with the path of the file for its summary. -/
  | replay (target : Target) (plan : ReplayPlan) (metrics : Option String)
  | scenario (plan : ScenarioPlan)
  | sample (plan : SamplePlan)
  deriving DecidableEq, Repr

/-- The address of a target unless something else is asked for. -/
def defaultEndpoint : String := "http://localhost:8083/ingest"

/-- The address of a service unless something else is asked for. -/
def defaultBaseUrl : String := "http://localhost:8080"

namespace Given

/-- The number that an option is set to, or a default. -/
def number (g : Given) (o : OptionName) (default : UInt64) : UInt64 := (g.number? o).getD default

/-- The milliseconds that an option is set to, or a default. -/
def millis (g : Given) (o : OptionName) (default : UInt64) : Span :=
  .ofMillis (g.number o default).toNat

/-- The target that is given. -/
def target (g : Given) (v : Variables) : Target where
  endpoint := ((g.text? .endpoint).or v.endpoint).getD defaultEndpoint
  authToken := (g.text? .authToken).or v.authToken
  headers := g.headers
  captureBody := g.has .captureBody

/-- The load that is given. -/
def loadPlan (g : Given) : LoadPlan where
  total := g.number .requests 1000
  concurrency := (g.number .concurrency 100).toNat
  selector := (g.selector? .shape).getD .mixed
  seed := g.number? .seed
  progressInterval := g.number .progressInterval LoadPlan.defaultInterval

/-- The replay that is given. -/
def replayPlan (g : Given) : ReplayPlan where
  count := g.number .count 30
  pause := g.millis .delayMs 100
  selector := (g.selector? .shape).getD (.fixed .profile)
  seed := g.number? .seed
  schemaName := g.text? .schemaName

/-- The scenario that is given. -/
def scenarioPlan (g : Given) (v : Variables) : ScenarioPlan where
  address := ((g.text? .baseUrl).or v.baseUrl).getD defaultBaseUrl
  users := (g.number .users 10).toNat
  iterations := g.number .iterations 20
  shortest := g.millis .waitMinMs 1000
  longest := g.millis .waitMaxMs 3000
  password := (g.text? .password).getD "password123"

/-- The sample that is given. -/
def samplePlan (g : Given) : SamplePlan where
  selector := (g.selector? .shape).getD .mixed
  seed := g.number? .seed
  count := g.number .count 1
  pretty := g.has .pretty

/-- The command that is given. -/
def command (g : Given) (v : Variables) : CommandName → Command
  | .send => .send (g.target v) g.loadPlan (g.text? .metricsOutput)
  | .replay => .replay (g.target v) g.replayPlan (g.text? .metricsOutput)
  | .scenario => .scenario (g.scenarioPlan v)
  | .sample => .sample g.samplePlan

end Given

namespace Command

/-- The command of a name. -/
def named? (s : String) : Option CommandName := CommandName.all.find? fun c => c.word == s

/-- The name of the command that prints help. -/
def helpWord : String := "help"

/-- Help on what is named behind `help`. -/
def readHelp : List String → ArgumentError
  | [] => .help none
  | topic :: rest =>
    match named? topic, rest with
    | some command, [] => .help (some command)
    | some _, other :: _ => .unknownCommand other
    | none, rest =>
      if topic = helpWord then
        match rest with
        | [] => .help none
        | other :: _ => .unknownCommand other
      else
        .unknownCommand topic

/-- What is wrong with arguments that have something else in the place of a command. -/
def readOther (first : String) : ArgumentError :=
  match first.toList with
  | '-' :: '-' :: body =>
    match Scan.longArgument none [.help] .start body with
    | .error e => e
    | .ok _ => .noCommand
  | '-' :: c :: cs =>
    match Scan.letters none [.help] .start (c :: cs) with
    | .error e => e
    | .ok _ => .noCommand
  | _ => .unknownCommand first

/-- What is wrong with arguments that begin with two hyphens. -/
def readClosed : List String → ArgumentError
  | [] => .noCommand
  | first :: _ =>
    if (named? first).isSome || first == helpWord then
      .unexpectedArgument first
    else
      .unknownCommand first

/-- The command that the arguments of the program stand for. -/
def read (v : Variables) : List String → Except ArgumentError Command
  | [] => .error .noCommand
  | "--" :: rest => .error (readClosed rest)
  | "help" :: rest => .error (readHelp rest)
  | first :: rest =>
    match named? first with
    | none => .error (readOther first)
    | some name => do
      let given ← Scan.run name name.options rest
      pure (given.command v name)

end Command

end SyntheticLoad.CommandLine

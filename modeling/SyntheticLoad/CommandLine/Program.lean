import SyntheticLoad.CommandLine.Help
import SyntheticLoad.Http.Delivery
import SyntheticLoad.Load.Run
import SyntheticLoad.Replay.Run
import SyntheticLoad.Scenario.Run
import SyntheticLoad.Summary.Document
import SyntheticLoad.Summary.Table

/-!
# The program

The program reads its arguments, runs the command, and ends with an exit code: 0 when
all went well, 1 when the command failed, and 2 when there was no command to run. What
it prints on either stream, and what it leaves in a file, is its `Conclusion`.

`Stage.rehearse` is the whole program in a world of this library: a network with a
state, a clock, and files that can or cannot be written (`Stage`).
-/

namespace SyntheticLoad.CommandLine

open Http SyntheticLoad.Random Time

/-- How the program ends. -/
structure Conclusion where
  /-- The exit code. -/
  code : UInt32
  /-- What it has printed. -/
  output : String
  /-- What it has printed as errors. -/
  errors : String
  /-- The path and the text of the file that it has written. -/
  saved : Option (String × String)
  deriving DecidableEq, Repr

/-- Why a command fails. -/
inductive CommandFailure
  /-- There is nothing to deliver to. -/
  | target (e : TargetError)
  /-- There is no service. -/
  | service (e : TargetError)
  | load (e : LoadError)
  | replay (e : ReplayFailure)
  | sample (e : Fault)
  | unsaved (e : UnsavedSummary)
  deriving DecidableEq, Repr

/-- What failed, and why. -/
def CommandFailure.messages : CommandFailure → List String
  | .target e => ["Failed to set up HTTP dispatcher", e.message]
  | .service e => [e.message]
  | .load e => [e.message]
  | .replay (.noPayload fault) => [fault.message]
  | .replay (.broken message) => [message]
  | .sample fault => [fault.message]
  | .unsaved e => e.messages

namespace Conclusion

/-- The end of a command that went well. -/
def success (output : String) : Conclusion := ⟨0, output, "", none⟩

/-- The end of a command that failed, after it had printed something. -/
def failed (output : String) (e : CommandFailure) : Conclusion :=
  ⟨1, output, "Error: " ++ ": ".intercalate e.messages ++ "\n", none⟩

/-- The end of the program when there is no command to run. -/
def refused (e : ArgumentError) : Conclusion :=
  match e with
  | .help topic => ⟨0, helpText topic, "", none⟩
  | .noCommand => ⟨2, "", helpText none, none⟩
  | e => ⟨2, "", e.text?.getD "", none⟩

end Conclusion

/-- A summary as it is printed. -/
def summaryOutput (s : Summary) : String := s.table ++ "\n"

/-- The summary of a scenario as it is printed. -/
def scenarioOutput (s : ScenarioSummary) : String := s.toJson.toPrettyText ++ "\n"

/-- An envelope as `sample` prints it. -/
def SamplePlan.line (p : SamplePlan) (e : Envelope) : String :=
  if p.pretty then e.toJson.toPrettyText else e.body

/-- The envelopes of a sample from a number on. -/
def SamplePlan.envelopes (p : SamplePlan) (seed : UInt64) (now : Instant) :
    Nat → Nat → Except Fault (List Envelope)
  | _, 0 => .ok []
  | unit, n + 1 => do
    let e ← unitEnvelope p.selector seed unit now
    let rest ← p.envelopes seed now (unit + 1) n
    pure (e :: rest)

/-- What `sample` prints. -/
def SamplePlan.output (p : SamplePlan) (seed : UInt64) (now : Instant) : Except Fault String := do
  let es ← p.envelopes seed now 0 p.count.toNat
  pure (String.join (es.map fun e => p.line e ++ "\n"))

/-- The end of a command that prints a summary. If it was to be written to a file, the
    path is given, and what came of it. -/
def Conclusion.ofSummary (s : Summary) (saving : Option (String × Except Files.WriteError Unit)) :
    Conclusion :=
  let output := summaryOutput s
  match saving with
  | none => .success output
  | some (path, .ok ()) => { Conclusion.success output with saved := some (path, s.fileText) }
  | some (path, .error cause) => .failed output (.unsaved ⟨path, cause⟩)

/-- What a rehearsal takes place in. -/
structure Stage (ν : Type) where
  network : Network ν
  /-- What the clock shows at each time of a run. -/
  clock : Span → Instant
  /-- The seed where none is given. -/
  seed : UInt64
  /-- Where the random words of each user come from. -/
  words : Nat → Keystream
  /-- What comes of writing a file. -/
  write : String → Except Files.WriteError Unit

namespace Stage

variable {ν : Type} (stage : Stage ν)

/-- Prints a summary, and writes it to a file if there is to be one. -/
def report (s : Summary) (metrics : Option String) : Conclusion :=
  .ofSummary s (metrics.map fun path => (path, stage.write path))

/-- Runs a load. -/
def send (endpoint : Endpoint) (plan : LoadPlan) (metrics : Option String) (state : ν) :
    Conclusion × ν :=
  let setting : LoadSetting ν :=
    ⟨plan, plan.seed.getD stage.seed, endpoint.sender stage.network, stage.clock⟩
  match setting.run state with
  | .error e => (.failed "" (.load e), state)
  | .ok r => (stage.report r.summary metrics, r.sender)

/-- Runs a replay. -/
def replay (endpoint : Endpoint) (plan : ReplayPlan) (metrics : Option String) (state : ν) :
    Conclusion × ν :=
  match plan.run (plan.seed.getD stage.seed) (endpoint.sender stage.network) stage.clock state with
  | .error e => (.failed "" (.replay e), state)
  | .ok r => (stage.report r.summary metrics, r.sender)

/-- Runs a command. -/
def perform (command : Command) (state : ν) : Conclusion × ν :=
  match command with
  | .send target plan metrics =>
    match Endpoint.ofTarget target with
    | .error e => (.failed "" (.target e), state)
    | .ok endpoint => stage.send endpoint plan metrics state
  | .replay target plan metrics =>
    match Endpoint.ofTarget target with
    | .error e => (.failed "" (.target e), state)
    | .ok endpoint => stage.replay endpoint plan metrics state
  | .scenario plan =>
    match plan.run stage.network ((List.range plan.users).map stage.words) state with
    | .error e => (.failed "" (.service e), state)
    | .ok r => (.success (scenarioOutput r.summary), r.network)
  | .sample plan =>
    match plan.output (plan.seed.getD stage.seed) (stage.clock ⟨0⟩) with
    | .error fault => (.failed "" (.sample fault), state)
    | .ok output => (.success output, state)

/-- Runs the program on its arguments. -/
def rehearse (arguments : List String) (environment : Variables) (state : ν) : Conclusion × ν :=
  match Command.read environment arguments with
  | .error e => (.refused e, state)
  | .ok command => stage.perform command state

end Stage

end SyntheticLoad.CommandLine

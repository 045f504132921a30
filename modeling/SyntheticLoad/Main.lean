import Std.Async.DNS
import Std.Async.TCP
import Std.Async.Timer
import Std.Time.DateTime.Timestamp
import SyntheticLoad.CommandLine.Program
import SyntheticLoad.Http.Message

/-!
# The program in the world

Here the program meets the world: the clock, random bytes, the connections to
servers, the file of a summary, and the terminal. What is asked, what is concluded
from an answer, and when a unit may start are those of the library. A request goes
over a connection of its own, and only the plain web can be reached. The summary and
the notices above the level of details are printed on the standard output.
-/

namespace SyntheticLoad.World

open CommandLine Http SyntheticLoad.Random Scenario Std.Async Std.Net Time

/-- What the clock shows. -/
def now : IO Instant := do
  let nanos := (← Std.Time.Timestamp.now).toNanosecondsSinceUnixEpoch.val
  pure ⟨nanos.fdiv 1000000000, (nanos.fmod 1000000000).toNat⟩

/-- The time since a reading of the steady clock. -/
def elapsed (start : Nat) : BaseIO Span := do
  pure ⟨(← IO.monoNanosNow) - start⟩

/-- A random seed. -/
def randomSeed : IO UInt64 := do
  let bytes ← IO.getRandomBytes 8
  pure (UInt64.ofNat (bytes.foldl (fun n b => n * 256 + b.toNat) 0))

/-- Prints a notice, unless it is a detail. -/
def tell (n : Notice) : IO Unit :=
  match n.level with
  | .debug => pure ()
  | _ => IO.println n.line

/-- Prints notices. -/
def tellAll (ns : List Notice) : IO Unit := ns.forM tell

/-! ### Connections -/

/-- A byte of a number, counted from its low end. -/
def byteAt (n place : Nat) : UInt8 := UInt8.ofNat (n >>> (8 * place))

/-- The addresses that a host may have on the network. -/
def addresses (host : Host) : Async (List IPAddr) :=
  match host with
  | .domain name => Array.toList <$> DNS.getAddrInfo name ""
  | .ipv4 n => pure [.v4 ⟨#v[byteAt n 3, byteAt n 2, byteAt n 1, byteAt n 0]⟩]
  | .ipv6 pieces => pure [.v6 ⟨Vector.ofFn fun i => UInt16.ofNat (pieces.getD i 0)⟩]

/-- An address with a port. -/
def socketAddress (address : IPAddr) (port : UInt16) : SocketAddress :=
  match address with
  | .v4 a => .v4 ⟨a, port⟩
  | .v6 a => .v6 ⟨a, port⟩

/-- A connection to the first of some addresses that takes one. -/
def connect (port : UInt16) : List IPAddr → Async (Option TCP.Socket.Client)
  | [] => pure none
  | address :: others => do
    try
      let socket ← TCP.Socket.Client.mk
      socket.connect (socketAddress address port)
      pure (some socket)
    catch _ => connect port others

/-- All bytes that come over a connection. -/
def receive (socket : TCP.Socket.Client) : Async ByteArray := do
  let mut bytes := ByteArray.empty
  repeat
    match ← socket.recv? 65536 with
    | some more => bytes := bytes ++ more
    | none => break
  pure bytes

/-- The answer of a server, if there is one. -/
def answer (request : Request) : Async (Option Response) := do
  let url := request.url
  match url.scheme == "http", url.host, url.targetPort? with
  | true, some host, some port =>
    try
      match ← connect (UInt16.ofNat port) (← addresses host) with
      | none => pure none
      | some socket =>
        socket.send request.message.toUTF8
        pure (Response.ofMessage? (← receive socket))
    catch _ => pure none
  | _, _, _ => pure none

/-- Makes an exchange. -/
def exchange {α : Type} : Exchange α → Async α
  | .nothing a => pure a
  | .ask request conclude => do pure (Exchange.settle request conclude (← answer request))

/-! ### Commands -/

/-- What becomes of a unit, and what is reported of it. -/
def performUnit (plan : LoadPlan) (seed : UInt64) (endpoint : Endpoint) (unit : Nat) :
    Async (Nat × Ending × List Notice) := do
  match unitEnvelope plan.selector seed unit (← now) with
  | .error fault => pure (unit, .broken fault.message, [])
  | .ok envelope =>
    let (outcome, notices) ← exchange (endpoint.post envelope)
    pure (unit, .answered outcome,
      notices ++ [LoadPlan.unitNotice unit envelope.schemaName outcome])

/-- The pool after some events, as far as they may happen. -/
def after (plan : LoadPlan) (pool : Pool) (events : List PoolEvent) : Pool :=
  events.foldl (fun pool event => (pool.step plan event).getD pool) pool

/-- Runs a load. -/
def runLoad (plan : LoadPlan) (endpoint : Endpoint) : IO (Except LoadError Summary) := do
  if plan.concurrency = 0 then
    return .error .noWorkers
  let seed ← plan.seed.getDM randomSeed
  tell (plan.startNotice seed)
  let start ← IO.monoNanosNow
  let mut pool := Pool.fresh plan (← now)
  let mut calls : List (Nat × AsyncTask (Nat × Ending × List Notice)) := []
  while !pool.isDone plan do
    if pool.canStart plan then
      let unit := pool.next
      pool := after plan pool [.start, .call unit]
      calls := calls ++ [(unit, ← (performUnit plan seed endpoint unit).toIO)]
    else
      match h : calls.map Prod.snd with
      | [] => break
      | task :: tasks =>
        let (unit, ending, notices) ← IO.ofExcept (← IO.waitAny (task :: tasks) (by simp))
        pool := after plan pool [.finish unit ending, .record unit]
        calls := calls.filter fun (n, _) => n != unit
        tellAll notices
        tellAll (LoadPlan.breakdownNotices unit ending)
        tellAll (plan.progressNotices pool.summary)
  let summary := pool.summary.finish (← elapsed start) (← now)
  tell (LoadPlan.endNotice summary)
  return .ok summary

/-- Waits. -/
def wait (span : Span) : Async Unit := sleep (.ofNat span.waited.wholeMillis)

/-- Runs a replay. -/
def runReplay (plan : ReplayPlan) (endpoint : Endpoint) : IO (Except ReplayFailure Summary) := do
  let seed ← plan.seed.getDM randomSeed
  match plan.payload seed (← now) with
  | .error fault => return .error (.noPayload fault)
  | .ok payload =>
    tell (ReplayPlan.payloadNotice payload)
    let start ← IO.monoNanosNow
    let mut summary := Summary.start plan.count (← now)
    for number in [1 : plan.count.toNat + 1] do
      if 1 < number then (wait plan.pause).block
      tell (plan.sendNotice number)
      let (outcome, notices) ← (exchange (endpoint.post payload)).block
      summary := summary.record outcome
      tellAll notices
      tell (ReplayPlan.outcomeNotice outcome)
    return .ok (summary.finish (← elapsed start) (← now))

/-- Lets a user act until it is done. -/
def live (plan : ScenarioPlan) (user : User) : Async UserTally := do
  let mut user := user
  repeat
    match user.act plan with
    | none => break
    | some step =>
      let turn ← exchange step
      tellAll turn.notices
      if 0 < turn.delay.nanos then wait turn.delay
      user := turn.user
  pure user.tally

/-- Runs a scenario. -/
def runScenario (plan : ScenarioPlan) : IO (Except TargetError ScenarioSummary) := do
  match Session.connect plan.address with
  | .error e => return .error e
  | .ok session =>
    tell plan.startNotice
    let start ← IO.monoNanosNow
    let mut lives : List (AsyncTask UserTally) := []
    for _ in [0 : plan.users] do
      let user := User.enter session (.ofSeed (← randomSeed))
      lives := (← (live plan user).toIO) :: lives
    let tallies ← lives.mapM fun task => do IO.ofExcept (← IO.wait task)
    let length ← elapsed start
    let summary := { ScenarioSummary.ofTallies tallies with durationMs := length.millisWord }
    tell (ScenarioPlan.endNotice summary)
    return .ok summary

/-- Prints the envelopes of a sample one after the other. -/
def runSample (plan : SamplePlan) : IO (Except Fault Unit) := do
  let seed ← plan.seed.getDM randomSeed
  for unit in [0 : plan.count.toNat] do
    match unitEnvelope plan.selector seed unit (← now) with
    | .error fault => return .error fault
    | .ok envelope => IO.println (plan.line envelope)
  return .ok ()

/-- A fault of the system, as far as it is told apart. -/
def writeError : IO.Error → Files.WriteError
  | .noFileOrDirectory _ _ _ => .notFound
  | .inappropriateType _ 20 _ => .notDirectory
  | .inappropriateType _ 21 _ => .isDirectory
  | .invalidArgument _ 36 _ => .tooLong
  | .resourceExhausted _ 28 _ => .noSpace
  | e => .other (toString e)

/-- What comes of writing a file. -/
def write (path text : String) : IO (Except Files.WriteError Unit) := do
  if path.toList.contains '\x00' then
    return .error .endOfName
  try
    IO.FS.writeFile path text
    return .ok ()
  catch e =>
    return .error (writeError e)

/-- Writes a summary to its file, if there is to be one. -/
def save (summary : Summary) (metrics : Option String) : IO Conclusion := do
  match metrics with
  | none => pure (.ofSummary summary none)
  | some path => pure (.ofSummary summary (some (path, ← write path summary.fileText)))

/-- Runs a command. -/
def perform : Command → IO Conclusion
  | .send target plan metrics => do
    match Endpoint.ofTarget target with
    | .error e => pure (.failed "" (.target e))
    | .ok endpoint =>
      match ← runLoad plan endpoint with
      | .error e => pure (.failed "" (.load e))
      | .ok summary => save summary metrics
  | .replay target plan metrics => do
    match Endpoint.ofTarget target with
    | .error e => pure (.failed "" (.target e))
    | .ok endpoint =>
      match ← runReplay plan endpoint with
      | .error e => pure (.failed "" (.replay e))
      | .ok summary => save summary metrics
  | .scenario plan => do
    match ← runScenario plan with
    | .error e => pure (.failed "" (.service e))
    | .ok summary => pure (.success (scenarioOutput summary))
  | .sample plan => do
    match ← runSample plan with
    | .error fault => pure (.failed "" (.sample fault))
    | .ok () => pure (.success "")

/-- The variables of the environment. -/
def environment : BaseIO Variables := do
  let endpoint ← IO.getEnv Variables.endpointName
  let authToken ← IO.getEnv Variables.authTokenName
  let baseUrl ← IO.getEnv Variables.baseUrlName
  pure ⟨endpoint, authToken, baseUrl⟩

/-- Runs the program on its arguments, and prints how it ends. -/
def run (arguments : List String) : IO UInt32 := do
  let conclusion ← match Command.read (← environment) arguments with
    | .error e => pure (.refused e)
    | .ok command => perform command
  IO.print conclusion.output
  IO.eprint conclusion.errors
  return conclusion.code

end SyntheticLoad.World

/-- The program. -/
def main (arguments : List String) : IO UInt32 := SyntheticLoad.World.run arguments

import SyntheticLoad.Load.Report
import SyntheticLoad.Record.Generator

/-!
# Load runs

A load run is a run of the pool in which a sender says how each call ends and what it
waits for. The keeper of the pool and the units take turns. In its turn the keeper
starts units as long as there is room, and records those that have ended, in the
order of their ends. In theirs, so many units at most go on (`turnLength`), each as
far as it can; those that can go on stand in a queue. A call that lets others go first
goes on after the turn in which it was made, and of several such calls the last one
is the first. The time stands still while anything can happen, and then moves on to
the end of the wait that is over first.

A unit has a generator of its own (`unitEnvelope`), so the envelope it sends hangs
on its number, the seed and the clock alone. A unit takes four events, hence a run
of `n` units ends after `4 * n` of them.
-/

namespace SyntheticLoad

open SyntheticLoad.Random Time

/-- The envelope of a unit of a run. -/
def unitEnvelope (selector : Selector) (seed : UInt64) (unit : Nat) (now : Instant) :
    Except Fault Envelope :=
  (Generator.forUnit seed (UInt64.ofNat unit) now).envelope selector |>.map Prod.fst

/-- What a load run takes place in. -/
structure LoadSetting (δ : Type) where
  /-- What the run is to do. -/
  plan : LoadPlan
  /-- The seed. -/
  seed : UInt64
  /-- What the calls go to. -/
  sender : Sender δ
  /-- What the clock shows at each time of the run. -/
  clock : Span → Instant

/-- A call that is open. -/
structure OpenCall where
  /-- The unit that made it. -/
  unit : Nat
  /-- When its wait is over. -/
  due : Span
  /-- How it ends, and what is reported then. -/
  reply : Reply
  deriving DecidableEq, Repr

/-- What a unit that can go on does. -/
inductive NextStep
  /-- It makes its call. -/
  | call (unit : Nat)
  /-- Its call ends. -/
  | finish (call : OpenCall)
  deriving DecidableEq, Repr

/-- The event of a step in the pool. -/
def NextStep.event : NextStep → PoolEvent
  | call unit => .call unit
  | finish c => .finish c.unit c.reply.ending

/-- Whose turn it is. -/
inductive Floor
  | keeper
  /-- The units; so many may still go on. -/
  | units (left : Nat)
  deriving DecidableEq, Repr

/-- How many units go on in a turn. -/
def turnLength : Nat := 61

/-- One unit less may go on. -/
def Floor.spend : Floor → Floor
  | keeper => keeper
  | units left => units (left - 1)

/-- A load run under way. -/
structure LoadRun (δ : Type) where
  /-- The units. -/
  pool : Pool
  floor : Floor
  /-- What the units do that can go on, in their order. -/
  queue : List NextStep
  /-- The calls that let others go first, the last one first. -/
  aside : List OpenCall
  /-- The calls that wait for a time, in the order in which they were made. -/
  waiting : List OpenCall
  /-- The state of the sender. -/
  sender : δ
  /-- The time since the start. -/
  now : Span
  /-- What has been reported, the last notice first. -/
  notices : List Notice

/-- The time at which the first wait is over. -/
def earliestDue : List OpenCall → Option Span
  | [] => none
  | c :: cs =>
    match earliestDue cs with
    | none => some c.due
    | some due => if due.nanos < c.due.nanos then some due else some c.due

namespace LoadRun

variable {δ : Type}

/-- Whether the keeper has something to do. -/
def keeperActs (plan : LoadPlan) (r : LoadRun δ) : Bool :=
  r.pool.canStart plan || !r.pool.ended.isEmpty

/-- The turn of the units is over. -/
def endTurn (r : LoadRun δ) : LoadRun δ :=
  { r with floor := .keeper, queue := r.queue ++ r.aside.map .finish, aside := [] }

/-- The time moves on to the end of a wait. -/
def passTime (r : LoadRun δ) : LoadRun δ :=
  match earliestDue r.waiting with
  | none => r
  | some due =>
    let (ended, waiting) := r.waiting.partition fun c => c.due = due
    { r with
      queue := r.queue ++ ended.map .finish
      waiting := waiting
      now := ⟨max r.now.nanos due.nanos⟩ }

/-- A turn of the units begins. -/
def beginTurn (r : LoadRun δ) : LoadRun δ :=
  { (if r.queue.isEmpty then r.passTime else r) with floor := .units turnLength }

/-- The floor goes to whoever has something to do. -/
def handOver (plan : LoadPlan) (r : LoadRun δ) : LoadRun δ :=
  match r.floor with
  | .units (_ + 1) =>
    if r.queue.isEmpty then
      if r.endTurn.keeperActs plan then r.endTurn else r.endTurn.beginTurn
    else
      r
  | .units 0 => if r.endTurn.keeperActs plan then r.endTurn else r.endTurn.beginTurn
  | .keeper => if r.keeperActs plan then r else r.beginTurn

/-- What happens next, once the floor is handed over. -/
def nextEvent (plan : LoadPlan) (r : LoadRun δ) : Option PoolEvent :=
  match r.floor with
  | .keeper =>
    if r.pool.canStart plan then some .start
    else r.pool.ended.head?.map fun (unit, _) => .record unit
  | .units _ => r.queue.head?.map NextStep.event

end LoadRun

namespace LoadSetting

variable {δ : Type} (s : LoadSetting δ)

/-- How the call of a unit goes, and the notices of its end. A unit without an
    envelope breaks down before it reaches the sender. -/
def reply (unit : Nat) (now : Span) (sender : δ) : Reply × δ :=
  match unitEnvelope s.plan.selector s.seed unit (s.clock now) with
  | .error fault => (⟨.none, .broken fault.message, []⟩, sender)
  | .ok envelope =>
    let (reply, sender) := s.sender.send now envelope sender
    match reply.ending with
    | .answered o =>
      let notice := LoadPlan.unitNotice unit envelope.schemaName o
      ({ reply with notices := reply.notices ++ [notice] }, sender)
    | .broken _ => (reply, sender)

/-- The run at its start. -/
def start (sender : δ) : LoadRun δ where
  pool := .fresh s.plan (s.clock ⟨0⟩)
  floor := .keeper
  queue := []
  aside := []
  waiting := []
  sender := sender
  now := ⟨0⟩
  notices := [s.plan.startNotice s.seed]

/-- What the call of a unit does to everything but the pool. -/
def applyCall (r : LoadRun δ) (unit : Nat) : LoadRun δ :=
  let (reply, sender) := s.reply unit r.now r.sender
  let call : OpenCall := ⟨unit, ⟨r.now.nanos + reply.delay.length.nanos⟩, reply⟩
  let r := { r with sender := sender, queue := r.queue.drop 1 }
  if reply.delay = .others then
    { r with aside := call :: r.aside, floor := r.floor.spend }
  else if call.due = r.now then
    { r with queue := .finish call :: r.queue }
  else
    { r with waiting := r.waiting ++ [call], floor := r.floor.spend }

/-- What the end of a call does to everything but the pool. -/
def applyFinish (r : LoadRun δ) : LoadRun δ :=
  let notices := match r.queue.head? with
    | some (.finish c) => c.reply.notices
    | _ => []
  { r with
    queue := r.queue.drop 1
    floor := r.floor.spend
    sender := s.sender.settle r.sender
    notices := notices.reverse ++ r.notices }

/-- What an event does, after which the pool is `pool`. -/
def apply (r : LoadRun δ) (pool : Pool) : PoolEvent → LoadRun δ
  | .start => { r with pool := pool, queue := r.queue ++ [.call r.pool.next] }
  | .call unit => { s.applyCall r unit with pool := pool }
  | .finish _ _ => { s.applyFinish r with pool := pool }
  | .record unit =>
    let broken := match r.pool.ended.lookup unit with
      | none => []
      | some ending => LoadPlan.breakdownNotices unit ending
    { r with
      pool := pool
      notices := s.plan.progressNotices pool.summary ++ (broken ++ r.notices) }

/-- Lets the next event happen, if there is one. -/
def advance (r : LoadRun δ) : Option (LoadRun δ) := do
  let r := r.handOver s.plan
  let event ← r.nextEvent s.plan
  let pool ← r.pool.step s.plan event
  pure (s.apply r pool event)

/-- Lets events happen until none is left, or the given number of them is reached. -/
def proceed : Nat → LoadRun δ → LoadRun δ
  | 0, r => r
  | n + 1, r =>
    match s.advance r with
    | none => r
    | some r => proceed n r

/-- The number of events of a whole run. -/
def eventCount (plan : LoadPlan) : Nat := 4 * plan.total.toNat

/-- What is left of a run when it is over. -/
structure Result (δ : Type) where
  /-- The summary, with its end. -/
  summary : Summary
  /-- The state of the sender. -/
  sender : δ
  /-- How long the run took. -/
  length : Span
  /-- What was reported, in order. -/
  notices : List Notice

/-- A whole run, from a state of the sender. -/
def run (sender : δ) : Except LoadError (Result δ) :=
  if s.plan.concurrency = 0 then
    .error .noWorkers
  else
    let r := s.proceed (eventCount s.plan) (s.start sender)
    let summary := r.pool.summary.finish r.now (s.clock r.now)
    .ok ⟨summary, r.sender, r.now, (LoadPlan.endNotice summary :: r.notices).reverse⟩

end LoadSetting

/-- What becomes of one unit on its own: its ending, the sender after it, and what
    is reported. -/
def runUnit {δ : Type} (s : LoadSetting δ) (unit : Nat) (sender : δ) : Reply × δ :=
  let (reply, sender) := s.reply unit ⟨0⟩ sender
  (reply, s.sender.settle sender)

end SyntheticLoad

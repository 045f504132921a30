import SyntheticLoad.Decimal.Fixed
import SyntheticLoad.Delivery.Sender
import SyntheticLoad.Replay.Plan
import SyntheticLoad.Summary.Basic

/-!
# Replays

The sends of a replay follow each other: the next one starts when the one before
has been answered and the pause is over. There is a pause between two sends, none
before the first and none after the last. A call that breaks down ends the whole
replay.
-/

namespace SyntheticLoad

open SyntheticLoad.Random Text Time

/-- Why a replay breaks off. -/
inductive ReplayFailure
  /-- There is no envelope to send. -/
  | noPayload (fault : Fault)
  /-- A call broke down. -/
  | broken (message : String)
  deriving DecidableEq, Repr

/-- A replay under way. -/
structure ReplayRun (δ : Type) where
  /-- The records so far. -/
  summary : Summary
  /-- The state of the sender. -/
  sender : δ
  /-- The time since the start. -/
  now : Span
  /-- When each call was made, the last one first. -/
  starts : List Span
  /-- What has been reported, the last notice first. -/
  notices : List Notice

namespace ReplayPlan

/-- The notice of the envelope. -/
def payloadNotice (e : Envelope) : Notice :=
  ⟨.info, "Generated JSON size: " ++
    Decimal.fixed 2 (Float.ofNat e.byteLength / (1024.0 * 1024.0)) ++ " MB (" ++
    numeral e.byteLength ++ " bytes, schema '" ++ e.schemaName ++ "')"⟩

/-- The notice of a send by its number, the first one being 1. -/
def sendNotice (p : ReplayPlan) (number : Nat) : Notice :=
  ⟨.info, "Sending payload " ++ numeral number ++ "/" ++ numeral p.count.toNat⟩

/-- The notice of an outcome. -/
def outcomeNotice : Outcome → Notice
  | .status code => ⟨.info, "Response status: " ++ numeral code.toNat⟩
  | .error reason => ⟨.warn, "Error sending payload: " ++ reason⟩

section

variable {δ : Type} (p : ReplayPlan) (sender : Sender δ) (payload : Envelope)

/-- One send, by its number, and its record. -/
def sendOnce (number : Nat) (r : ReplayRun δ) : Except ReplayFailure (ReplayRun δ) :=
  let (reply, state) := sender.send r.now payload r.sender
  match reply.ending with
  | .broken message => .error (.broken message)
  | .answered o =>
    .ok {
      summary := r.summary.record o
      sender := sender.settle state
      now := ⟨r.now.nanos + reply.delay.length.nanos⟩
      starts := r.now :: r.starts
      notices := outcomeNotice o :: (reply.notices.reverse ++ p.sendNotice number :: r.notices) }

/-- The pause between two sends. -/
def rest (r : ReplayRun δ) : ReplayRun δ := { r with now := ⟨r.now.nanos + p.pause.waited.nanos⟩ }

/-- The last `n` sends of a replay. -/
def sendLast : Nat → ReplayRun δ → Except ReplayFailure (ReplayRun δ)
  | 0, r => .ok r
  | n + 1, r => do
    let r ← p.sendOnce sender payload (p.count.toNat - n) r
    if n = 0 then pure r else sendLast n (p.rest r)

end

/-- What is left of a replay when it is over. -/
structure Result (δ : Type) where
  /-- The summary, with its end. -/
  summary : Summary
  /-- The state of the sender. -/
  sender : δ
  /-- How long the replay took. -/
  length : Span
  /-- When each call was made, in order. -/
  starts : List Span
  /-- What was reported, in order. -/
  notices : List Notice

/-- A whole replay, from a state of the sender. The clock shows `clock t` at the
    time `t` of the replay. -/
def run {δ : Type} (p : ReplayPlan) (seed : UInt64) (sender : Sender δ) (clock : Span → Instant)
    (state : δ) : Except ReplayFailure (Result δ) := do
  let payload ← (p.payload seed (clock ⟨0⟩)).mapError .noPayload
  let start : ReplayRun δ :=
    ⟨.start p.count (clock ⟨0⟩), state, ⟨0⟩, [], [payloadNotice payload]⟩
  let r ← p.sendLast sender payload p.count.toNat start
  pure ⟨r.summary.finish r.now (clock r.now), r.sender, r.now, r.starts.reverse,
    r.notices.reverse⟩

end ReplayPlan

end SyntheticLoad

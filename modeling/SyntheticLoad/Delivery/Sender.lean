import SyntheticLoad.Delivery.Notice
import SyntheticLoad.Delivery.Outcome
import SyntheticLoad.Record.Envelope
import SyntheticLoad.Time.Span

/-!
# Senders

A sender is what envelopes are handed to. It has a state of its own; a call may
change it, and says at once how the call will go: what it waits for, how it ends,
and what is reported then (`Reply`). A call ends with an outcome, or it breaks
down and has none (`Ending`). When a call is over, the sender is told so.

Nothing here fixes in which order calls end. That is up to the run.
-/

namespace SyntheticLoad

open Time

/-- How a call ends. -/
inductive Ending
  /-- With an outcome. -/
  | answered (outcome : Outcome)
  /-- It breaks down, with a message. -/
  | broken (message : String)
  deriving DecidableEq, Repr

/-- What a call waits for before it ends. -/
inductive Delay
  /-- Nothing: it ends at once. -/
  | none
  /-- The calls that can go on by then: they go first. -/
  | others
  /-- The end of a span of time. -/
  | span (length : Span)
  deriving DecidableEq, Repr

/-- How long a call waits on its own. -/
def Delay.length : Delay → Span
  | none => ⟨0⟩
  | others => ⟨0⟩
  | span length => length.waited

/-- How a call goes. -/
structure Reply where
  /-- What it waits for. -/
  delay : Delay
  /-- How it ends. -/
  ending : Ending
  /-- What is reported at its end. -/
  notices : List Notice
  deriving DecidableEq, Repr

/-- A way to deliver envelopes, with states of type `δ`. -/
structure Sender (δ : Type) where
  /-- An envelope is handed over; the time is that since the start of the run. -/
  send : Span → Envelope → δ → Reply × δ
  /-- A call is over. -/
  settle : δ → δ

/-- A reply that comes at once. -/
def Reply.immediate (outcome : Outcome) : Reply := ⟨.none, .answered outcome, []⟩

end SyntheticLoad

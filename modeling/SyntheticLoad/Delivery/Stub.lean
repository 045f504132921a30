import SyntheticLoad.Delivery.Sender

/-!
# Stub senders

Senders without an endpoint, for trying out runs. One answers always the same
(`fixed`), one with 200 and 500 in turn (`alternating`), one keeps what it is sent
(`recording`), one holds each call open for a while and notes how many were open
at most (`probe`), and one follows a script (`scripted`).
-/

namespace SyntheticLoad.Stub

open Time

/-- Answers every call with the same status; the state counts the calls. -/
def fixed (code : UInt16) : Sender Nat where
  send _ _ calls := (.immediate (.status code), calls + 1)
  settle := id

/-- The status of a call by its number: 200 for the first, then 500, and so on. -/
def alternatingStatus (call : Nat) : UInt16 := if call % 2 = 0 then 200 else 500

/-- Answers with 200 and 500 in turn, after the calls that can go on by then; the state
    counts the calls. -/
def alternating : Sender Nat where
  send _ _ calls := (⟨.others, .answered (.status (alternatingStatus calls)), []⟩, calls + 1)
  settle := id

/-- Answers with 200 and keeps the envelopes, the last one first. -/
def recording : Sender (List Envelope) where
  send _ envelope kept := (.immediate (.status 200), envelope :: kept)
  settle := id

/-- The state of a probe. -/
structure Gauge where
  /-- The calls that are open. -/
  inFlight : Nat
  /-- The most calls that were open at the same time. -/
  peak : Nat
  deriving DecidableEq, Repr

/-- A probe that has seen no call. -/
def Gauge.zero : Gauge := ⟨0, 0⟩

/-- One more call is open. -/
def Gauge.enter (g : Gauge) : Gauge := ⟨g.inFlight + 1, max g.peak (g.inFlight + 1)⟩

/-- One call less is open. -/
def Gauge.leave (g : Gauge) : Gauge := { g with inFlight := g.inFlight - 1 }

/-- Holds each call open for a while and answers with 204. -/
def probe (hold : Span) : Sender Gauge where
  send _ _ g := (⟨.span hold, .answered (.status 204), []⟩, g.enter)
  settle := Gauge.leave

/-- How a script has a call go. -/
structure Step where
  /-- How long it takes. -/
  wait : Span
  /-- How it ends. -/
  ending : Ending
  deriving DecidableEq, Repr

/-- The state of a scripted sender: when each call came and with what, the last
    call first. -/
abbrev Seen := List (Span × Envelope)

/-- The step of a script for a call, by the number of the call. The script starts
    again when it is over; an empty one answers with 200 at once. -/
def stepAt (script : List Step) (call : Nat) : Step :=
  script.getD (call % script.length) ⟨⟨0⟩, .answered (.status 200)⟩

/-- Follows a script. -/
def scripted (script : List Step) : Sender Seen where
  send now envelope seen :=
    let step := stepAt script seen.length
    (⟨.span step.wait, step.ending, []⟩, (now, envelope) :: seen)
  settle := id

end SyntheticLoad.Stub

import SyntheticLoad.Json.Number
import SyntheticLoad.Scenario.User

/-!
# The summary of a scenario

The summary adds up what has become of the users. A user whose account was not
registered counts as that and not as a failed login.
-/

namespace SyntheticLoad

open Scenario Time

/-- The summary of a scenario. -/
structure ScenarioSummary where
  /-- The number of users. -/
  users : Nat
  registrationsFailed : UInt64
  loginsFailed : UInt64
  /-- Users who broke down. -/
  usersAborted : UInt64
  browseOk : UInt64
  browseFailed : UInt64
  healthChecks : UInt64
  /-- How long the scenario took, in milliseconds. -/
  durationMs : UInt64
  deriving DecidableEq, Repr

namespace ScenarioSummary

/-- The summary of so many users before any of them is counted. -/
def start (users : Nat) : ScenarioSummary := ⟨users, 0, 0, 0, 0, 0, 0, 0⟩

/-- Counts a failed registration, or a failed login after one that went well. -/
def countFailure (s : ScenarioSummary) (t : UserTally) : ScenarioSummary :=
  if !t.registered then
    { s with registrationsFailed := s.registrationsFailed + 1 }
  else if !t.loggedIn then
    { s with loginsFailed := s.loginsFailed + 1 }
  else
    s

/-- Counts a user. -/
def record (s : ScenarioSummary) (t : UserTally) : ScenarioSummary :=
  let s := s.countFailure t
  { s with
    browseOk := s.browseOk + t.browseOk
    browseFailed := s.browseFailed + t.browseFailed
    healthChecks := s.healthChecks + t.healthChecks }

/-- The summary of some users. -/
def ofTallies (tallies : List UserTally) : ScenarioSummary :=
  tallies.foldl record (start tallies.length)

/-- How many tasks were performed. -/
def tasks (s : ScenarioSummary) : UInt64 := s.browseOk + s.browseFailed + s.healthChecks

/-- A summary as a document. -/
def toJson (s : ScenarioSummary) : Json :=
  .object [("users", Json.ofNat s.users),
    ("registrations_failed", Json.ofNat s.registrationsFailed.toNat),
    ("logins_failed", Json.ofNat s.loginsFailed.toNat),
    ("users_aborted", Json.ofNat s.usersAborted.toNat),
    ("browse_ok", Json.ofNat s.browseOk.toNat),
    ("browse_failed", Json.ofNat s.browseFailed.toNat),
    ("health_checks", Json.ofNat s.healthChecks.toNat),
    ("duration_ms", Json.ofNat s.durationMs.toNat)]

end ScenarioSummary

end SyntheticLoad

import SyntheticLoad.Delivery.Outcome
import SyntheticLoad.Time.Instant
import SyntheticLoad.Time.Span

/-!
# The summary of a run

A summary counts the outcomes of a run in two ways: successes against everything
else, and by status, with the outcomes that have none apart. Every outcome enters
both (`Summary.record`). The counts are words of 64 bits.
-/

namespace SyntheticLoad

open Time

/-- How often each status occurred, in increasing order of the statuses. -/
abbrev StatusCounts := List (UInt16 × UInt64)

namespace StatusCounts

/-- Sets the count of a status. -/
def put (code : UInt16) (count : UInt64) : StatusCounts → StatusCounts
  | [] => [(code, count)]
  | (c, n) :: rest =>
    if code < c then (code, count) :: (c, n) :: rest
    else if code = c then (c, count) :: rest
    else (c, n) :: put code count rest

/-- Counts a status once more. -/
def bump (code : UInt16) : StatusCounts → StatusCounts
  | [] => [(code, 1)]
  | (c, n) :: rest =>
    if code < c then (code, 1) :: (c, n) :: rest
    else if code = c then (c, n + 1) :: rest
    else (c, n) :: bump code rest

end StatusCounts

/-- The summary of a run. -/
structure Summary where
  /-- How many deliveries the run was asked for. -/
  total : UInt64
  /-- Outcomes of success. -/
  successes : UInt64
  /-- All other outcomes. -/
  errors : UInt64
  /-- Outcomes without a status. -/
  transportErrors : UInt64
  /-- Outcomes by status. -/
  statusCounts : StatusCounts
  /-- How long the run took, in milliseconds. -/
  durationMs : UInt64
  /-- When the run started. -/
  startedAt : Instant
  /-- When the run ended, if it has. -/
  completedAt : Option Instant
  deriving DecidableEq, Repr

namespace Summary

/-- The summary of a run that starts now. -/
def start (total : UInt64) (now : Instant) : Summary where
  total := total
  successes := 0
  errors := 0
  transportErrors := 0
  statusCounts := []
  durationMs := 0
  startedAt := now
  completedAt := none

/-- Counts an outcome as a success or as an error. -/
def countBand (s : Summary) (o : Outcome) : Summary :=
  if o.isSuccess then { s with successes := s.successes + 1 } else { s with errors := s.errors + 1 }

/-- Counts an outcome by its status. -/
def countStatus (s : Summary) : Outcome → Summary
  | .status code => { s with statusCounts := s.statusCounts.bump code }
  | .error _ => { s with transportErrors := s.transportErrors + 1 }

/-- Counts an outcome. -/
def record (s : Summary) (o : Outcome) : Summary := (s.countBand o).countStatus o

/-- How many outcomes have been counted. -/
def completed (s : Summary) : UInt64 := s.successes + s.errors

/-- Marks the run as ended. -/
def finish (s : Summary) (elapsed : Span) (now : Instant) : Summary :=
  { s with durationMs := elapsed.millisWord, completedAt := some now }

/-- The duration in seconds. -/
def seconds (s : Summary) : Float := s.durationMs.toFloat / 1000.0

/-- Outcomes per second; none if the run took no time. -/
def requestsPerSecond (s : Summary) : Float :=
  if 0 < s.durationMs then s.completed.toFloat / s.seconds else 0.0

end Summary

end SyntheticLoad

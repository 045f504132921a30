import SyntheticLoad.Json.Number
import SyntheticLoad.Json.Printer

/-!
# Outcomes

What became of one delivery: the status that the endpoint answered with, or a
description of why there was no answer. A missing answer is an outcome like any
other. A delivery succeeded if it was answered with a status from 200 to 299.
-/

namespace SyntheticLoad

open Text

/-- What became of one delivery. -/
inductive Outcome
  /-- The endpoint answered with a status. -/
  | status (code : UInt16)
  /-- There was no answer. -/
  | error (reason : String)
  deriving DecidableEq, Repr

namespace Outcome

/-- Whether a status is one of success. -/
def isSuccessCode (code : UInt16) : Bool := 200 ≤ code && code < 300

/-- Whether a delivery succeeded. -/
def isSuccess : Outcome → Bool
  | status code => isSuccessCode code
  | error _ => false

/-- The status of an answer. -/
def status? : Outcome → Option UInt16
  | status code => some code
  | error _ => none

/-- An outcome as it stands in a notice. -/
def text : Outcome → String
  | status code => "status " ++ String.ofList (digits code.toNat)
  | error reason => "error: " ++ reason

/-- An outcome as a document with one member. -/
def toJson : Outcome → Json
  | status code => .object [("status", Json.ofNat code.toNat)]
  | error reason => .object [("error", .text reason)]

end Outcome

end SyntheticLoad

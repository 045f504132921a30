import SyntheticLoad.Files.Tree
import SyntheticLoad.Summary.Basic
import SyntheticLoad.Text.Quoted

/-!
# The summary as a document

The members of the document are the counters in fixed order. The counts by status
are an object with the statuses as keys, in increasing order of the numbers. The
end of the run is left out as long as it has none.

The document is kept as a file. When the file cannot be written, the fault names
its path and the cause (`UnsavedSummary`).
-/

namespace SyntheticLoad.Summary

open Text

/-- A status and its count as a member. -/
def statusMember (count : UInt16 × UInt64) : String × Json :=
  (String.ofList (digits count.1.toNat), Json.ofNat count.2.toNat)

/-- The end of the run as a member, if there is one. -/
def completedMember (s : Summary) : List (String × Json) :=
  match s.completedAt with
  | none => []
  | some t => [("completed_at", .text (String.ofList t.text))]

/-- A summary as a document. -/
def toJson (s : Summary) : Json :=
  .object ([("total", Json.ofNat s.total.toNat),
    ("successes", Json.ofNat s.successes.toNat),
    ("errors", Json.ofNat s.errors.toNat),
    ("transport_errors", Json.ofNat s.transportErrors.toNat),
    ("status_counts", .object (s.statusCounts.map statusMember)),
    ("duration_ms", Json.ofNat s.durationMs.toNat),
    ("started_at", .text (String.ofList s.startedAt.text))] ++ s.completedMember)

/-- The text of a summary's file: its document, with a line for each member. -/
def fileText (s : Summary) : String := s.toJson.toPrettyText

end SyntheticLoad.Summary

namespace SyntheticLoad

open Text

/-- The fault of a summary whose file could not be written. -/
structure UnsavedSummary where
  /-- The path of the file. -/
  path : String
  /-- What came of writing it. -/
  cause : Files.WriteError
  deriving DecidableEq, Repr

namespace UnsavedSummary

/-- What could not be done. -/
def message (e : UnsavedSummary) : String :=
  "Failed to write metrics to " ++ String.ofList (quoted e.path.toList)

/-- What could not be done and why. -/
def messages (e : UnsavedSummary) : List String := [e.message, e.cause.message]

end UnsavedSummary

end SyntheticLoad

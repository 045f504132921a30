/-!
# Spans of time

A span is a number of nanoseconds. Where spans are counted in milliseconds, the
part of a millisecond that is left over does not count, and the count is a word of
64 bits. A wait for a span takes as long as the span, but never more than thirty years.
-/

namespace SyntheticLoad.Time

/-- A span of time. -/
structure Span where
  /-- Its length in nanoseconds. -/
  nanos : Nat
  deriving DecidableEq, Repr

namespace Span

/-- The nanoseconds of a millisecond. -/
def nanosPerMilli : Nat := 1000000

/-- So many milliseconds. -/
def ofMillis (ms : Nat) : Span := ⟨ms * nanosPerMilli⟩

/-- The whole milliseconds of a span. -/
def wholeMillis (s : Span) : Nat := s.nanos / nanosPerMilli

/-- The longest wait there is: thirty years of 365 days. -/
def longestWait : Span := ofMillis 946080000000

/-- How long a wait for a span takes. -/
def waited (s : Span) : Span := ⟨min s.nanos longestWait.nanos⟩

/-- The whole milliseconds of a span, as a word. -/
def millisWord (s : Span) : UInt64 := UInt64.ofNat s.wholeMillis

end Span

end SyntheticLoad.Time

import SyntheticLoad.Random.Uniform
import SyntheticLoad.Time.Instant

/-!
# Recent instants

A recent instant is a whole second, at most so many days before the whole second
of now. If the calendar does not reach that far back, it is now itself.
-/

namespace SyntheticLoad.Field

open SyntheticLoad.Random Time

/-- A whole second of the last `days` days. -/
def recentInstant {σ : Type} [WordSource σ] (now : Instant) (days : UInt32) : Draw σ Instant := do
  let window : Int := days.toNat * Instant.secondsPerDay
  let back ← if 0 < window then intBetween 0 (Int64.ofInt window) else pure 0
  pure ((Instant.ofSecond? (now.seconds - back.toInt)).getD now)

end SyntheticLoad.Field

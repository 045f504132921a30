import SyntheticLoad.Field.Kind
import SyntheticLoad.Field.Moment
import SyntheticLoad.Field.Selection
import SyntheticLoad.Field.Template

/-!
# Drawing a record

The values of a record are drawn field by field in declared order, the fields of
a nested record in the place of their field. A name that is declared twice draws
twice, and the last value stands. The clock is only read by recent instants.
-/

namespace SyntheticLoad

open SyntheticLoad.Random Time SyntheticLoad.Field

section

variable {σ : Type} [WordSource σ]

/-- A random key with a random text: the key is drawn first. -/
def randomEntry (keyLength low high : Nat) : Draw σ (String × Value) := do
  let key ← alphanumeric keyLength
  let text ← alphanumericBetween low high
  pure (key, .text text)

mutual

/-- A value of a kind, where the time is `now`. -/
def FieldKind.draw (now : Instant) : FieldKind → Attempt σ Value
  | .uuid => do
    let s ← Draw.attempt identifier
    pure (.text s)
  | .letters n => do
    let s ← Draw.attempt (Field.letters n)
    pure (.text s)
  | .alphanumeric n => do
    let s ← Draw.attempt (Field.alphanumeric n)
    pure (.text s)
  | .template t => do
    let s ← expandTemplate t
    pure (.text s)
  | .intRange low high => do
    let n ← Draw.attempt (intInRange low high)
    pure (.int n)
  | .floatRange low high => do
    let x ← floatInRange low high
    pure (.float x)
  | .bool => do
    let b ← Draw.attempt coin
    pure (.bool b)
  | .oneOf [] => pure (.text "")
  | .oneOf (s :: rest) => do
    let s ← Draw.attempt (pick s rest)
    pure (.text s)
  | .oneOfInt choices => do
    let n ← Draw.attempt (oneOfInts choices)
    pure (.int (n.getD 0))
  | .recentInstant days => do
    let t ← Draw.attempt (Field.recentInstant now days)
    pure (.instant t)
  | .selection pool low high => do
    let items ← Field.selection pool low high
    pure (.list items)
  | .textList low high length => do
    let items ← Draw.attempt (Field.textList low high length)
    pure (.list items)
  | .nested fields => do
    let entries ← FieldKind.drawEntries now fields
    pure (.map (Record.ofEntries entries))
  | .randomKeys count keyLength low high => do
    let entries ← Draw.attempt (Draw.times (randomEntry keyLength low high) count)
    pure (.map (Record.ofEntries entries))

/-- The names of some fields, each with a value of its kind, in declared order. -/
def FieldKind.drawEntries (now : Instant) :
    List (String × FieldKind) → Attempt σ (List (String × Value))
  | [] => pure []
  | (name, kind) :: fields => do
    let value ← kind.draw now
    let entries ← FieldKind.drawEntries now fields
    pure ((name, value) :: entries)

end

/-- A record with the declared fields. -/
def drawRecord (now : Instant) (fields : List Field) : Attempt σ Record := do
  let entries ← FieldKind.drawEntries now fields
  pure (Record.ofEntries entries)

end

end SyntheticLoad

import SyntheticLoad.Random.Uniform
import SyntheticLoad.Text.Blank

/-!
# Shapes

A record has one of four shapes. A selector is a shape, or `mixed`, which picks
one of the first three at random for each record.

Names are read without the blanks around them and without regard to the case of
their ASCII letters. A name that is neither a shape nor `mixed` is reported as it
was given.
-/

namespace SyntheticLoad

open SyntheticLoad.Random Text

/-- The shape of a record. -/
inductive Shape
  | user
  | transaction
  | event
  | profile
  deriving DecidableEq, Repr

/-- A name that no shape has, as it was given. -/
structure UnknownShape where
  given : String
  deriving DecidableEq, Repr

/-- The wording of an unknown name. -/
def UnknownShape.message (e : UnknownShape) : String :=
  "Unknown shape '" ++ e.given ++
    "' (expected one of: user, transaction, event, profile, mixed)"

namespace Shape

/-- All shapes. -/
def all : List Shape := [.user, .transaction, .event, .profile]

/-- The first of the shapes that `mixed` picks from. -/
def firstMixed : Shape := .user

/-- The other shapes that `mixed` picks from. -/
def otherMixed : List Shape := [.transaction, .event]

/-- The shapes that `mixed` picks from. -/
def mixed : List Shape := firstMixed :: otherMixed

/-- The name of a shape. -/
def name : Shape → String
  | user => "user"
  | transaction => "transaction"
  | event => "event"
  | profile => "profile"

/-- The shape that a text names. -/
def read (s : String) : Except UnknownShape Shape :=
  let name := String.ofList (lower (trim s.toList))
  if name = "user" then .ok .user
  else if name = "transaction" then .ok .transaction
  else if name = "event" then .ok .event
  else if name = "profile" then .ok .profile
  else .error ⟨s⟩

end Shape

/-- Which shape a record is given. -/
inductive Selector
  /-- Always the same one. -/
  | fixed (shape : Shape)
  /-- One of `Shape.mixed`, at random. -/
  | mixed
  deriving DecidableEq, Repr

namespace Selector

instance : Inhabited Selector := ⟨.mixed⟩

/-- The name of a selector. -/
def name : Selector → String
  | fixed shape => shape.name
  | mixed => "mixed"

/-- The selector that a text names. -/
def read (s : String) : Except UnknownShape Selector :=
  if equalButCase (trim s.toList) "mixed".toList then
    .ok .mixed
  else
    (Shape.read s).map .fixed

/-- The shape of the next record. Only `mixed` draws. -/
def resolve {σ : Type} [WordSource σ] : Selector → Draw σ Shape
  | fixed shape => pure shape
  | mixed => pick Shape.firstMixed Shape.otherMixed

end Selector

end SyntheticLoad

import SyntheticLoad.Text.Blank
import SyntheticLoad.Text.Cut

/-!
# Targets

Where envelopes are delivered, and with which headers. A header given as one
argument is a name and a value with a colon between them; the blanks around
either do not count, and the name may not be empty (`Target.readHeader`).
-/

namespace SyntheticLoad

open Text

/-- Where and how envelopes are delivered. -/
structure Target where
  /-- The address. -/
  endpoint : String
  /-- The value of the `Authorization` header. -/
  authToken : Option String
  /-- Further headers: names and values. -/
  headers : List (String × String)
  /-- Whether the bodies of answers are read and reported. -/
  captureBody : Bool
  deriving DecidableEq, Repr

/-- Why an argument is no header. -/
inductive HeaderArgumentError
  /-- There is no colon. -/
  | noColon (given : String)
  /-- Nothing but blanks stands before the colon. -/
  | emptyName (given : String)
  deriving DecidableEq, Repr

/-- The wording of an argument's fault. -/
def HeaderArgumentError.message : HeaderArgumentError → String
  | .noColon given => "invalid header '" ++ given ++ "': expected 'Name: value'"
  | .emptyName given => "invalid header '" ++ given ++ "': empty name"

namespace Target

/-- The target at an address, with nothing else set. -/
def ofEndpoint (endpoint : String) : Target := ⟨endpoint, none, [], false⟩

/-- The target with a token. -/
def withAuthToken (t : Target) (token : String) : Target := { t with authToken := some token }

/-- The target with one more header. -/
def withHeader (t : Target) (name value : String) : Target :=
  { t with headers := t.headers ++ [(name, value)] }

/-- The target with bodies read or not. -/
def withCaptureBody (t : Target) (capture : Bool) : Target := { t with captureBody := capture }

/-- The name and the value of a header that is given as one argument. -/
def readHeader (s : String) : Except HeaderArgumentError (String × String) :=
  match cut ':' s.toList with
  | none => .error (.noColon s)
  | some (name, value) =>
    let name := trim name
    if name = [] then
      .error (.emptyName s)
    else
      .ok (String.ofList name, String.ofList (trim value))

end Target

end SyntheticLoad

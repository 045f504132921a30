import SyntheticLoad.CommandLine.OptionName
import SyntheticLoad.Delivery.Target
import SyntheticLoad.Shape.Basic
import SyntheticLoad.Text.Numeral

/-!
# Settings

A setting is what an option is set to. The text that is given for an option is read
by the kind of its value; a text that is no such value has a fault. Nearly any text
will do for a path, but not the empty one.
-/

namespace SyntheticLoad.CommandLine

open Text

/-- What an option is set to. -/
inductive Setting
  | on
  | text (s : String)
  | number (n : UInt64)
  | selector (s : Selector)
  | header (name value : String)
  deriving DecidableEq, Repr

/-- Why a text is no value of an option. -/
inductive ValueFault
  /-- The value is missing. -/
  | empty
  | numeral (e : NumeralError)
  | shape (e : UnknownShape)
  | header (e : HeaderArgumentError)
  deriving DecidableEq, Repr

/-- Reads the text that is given for an option. -/
def readSetting (kind : ValueKind) (s : String) : Except ValueFault Setting :=
  match kind with
  | .nothing => .ok .on
  | .text => .ok (.text s)
  | .path => if s = "" then .error .empty else .ok (.text s)
  | .number =>
    match readWord s.toList with
    | .ok n => .ok (.number n)
    | .error e => .error (.numeral e)
  | .shape =>
    match Selector.read s with
    | .ok x => .ok (.selector x)
    | .error e => .error (.shape e)
  | .header =>
    match Target.readHeader s with
    | .ok (name, value) => .ok (.header name value)
    | .error e => .error (.header e)

/-- The settings that are given, in the order in which they were accepted. -/
abbrev Given := List (OptionName × Setting)

namespace Given

/-- Whether an option is given. -/
def has (g : Given) (o : OptionName) : Bool := g.any fun (p, _) => p = o

/-- The text that an option is set to. -/
def text? (g : Given) (o : OptionName) : Option String :=
  match g.lookup o with
  | some (.text s) => some s
  | _ => none

/-- The number that an option is set to. -/
def number? (g : Given) (o : OptionName) : Option UInt64 :=
  match g.lookup o with
  | some (.number n) => some n
  | _ => none

/-- The shape that an option is set to. -/
def selector? (g : Given) (o : OptionName) : Option Selector :=
  match g.lookup o with
  | some (.selector s) => some s
  | _ => none

/-- The headers in their order. -/
def headers : Given → List (String × String)
  | [] => []
  | (.header, .header name value) :: g => (name, value) :: headers g
  | _ :: g => headers g

end Given

end SyntheticLoad.CommandLine

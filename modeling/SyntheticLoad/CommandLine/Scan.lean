import SyntheticLoad.CommandLine.ArgumentError

/-!
# Scanning arguments

The arguments behind a command are options with their values. A value stands in the
same argument as its option (`--count=3`, `-n3`, `-n=3`), or it is the next argument;
in that case it may not begin with a hyphen, unless it is nothing but one hyphen.
After an argument of two hyphens nothing more is expected.

Arguments are scanned from left to right. A value in an argument of its own is only
looked at when the next option that is known has been found, or the end (`settle`), so
that an unknown option behind it is reported first. An option that is given again is
reported before its value is looked at.
-/

namespace SyntheticLoad.CommandLine

open Text

/-- A scan under way. -/
structure Scan where
  /-- The settings that have been accepted. -/
  given : Given
  /-- The option whose value has not been looked at, and its value, if that has come. -/
  pending : Option (OptionName × Option String)
  /-- Whether two hyphens have come. -/
  closed : Bool
  deriving DecidableEq, Repr

namespace Scan

/-- A scan at its start. -/
def start : Scan := ⟨[], none, false⟩

/-- Accepts a setting of an option. -/
def accept (s : Scan) (o : OptionName) (value : String) : Except ArgumentError Scan :=
  if s.given.has o && !o.isRepeatable then
    .error (.repeated o)
  else
    match readSetting o.kind value with
    | .error fault => .error (.badValue o value fault)
    | .ok setting => .ok { s with given := s.given ++ [(o, setting)] }

/-- Looks at the value that is pending. -/
def settle (s : Scan) : Except ArgumentError Scan :=
  match s.pending with
  | none => .ok s
  | some (o, none) => .error (.missingValue o)
  | some (o, some value) => { s with pending := none }.accept o value

/-- An option that takes nothing. -/
def flag (command : Option CommandName) (s : Scan) (o : OptionName) :
    Except ArgumentError Scan := do
  let s ← s.settle
  if o = .help then throw (.help command) else s.accept o ""

/-- An option with its value in the same argument. -/
def attached (s : Scan) (o : OptionName) (value : String) : Except ArgumentError Scan := do
  (← s.settle).accept o value

/-- An option whose value has to come. -/
def await (s : Scan) (o : OptionName) : Except ArgumentError Scan := do
  let s ← s.settle
  pure { s with pending := some (o, none) }

/-- An argument behind two hyphens, which are left out in `body`. -/
def longArgument (command : Option CommandName) (options : List OptionName) (s : Scan)
    (body : List Char) : Except ArgumentError Scan :=
  let (name, value) := match cut '=' body with
    | none => (String.ofList body, none)
    | some (name, value) => (String.ofList name, some (String.ofList value))
  match options.find? (fun o => o.word == name) with
  | none => .error (.unexpectedArgument ("--" ++ name))
  | some o =>
    match decide (o.kind = .nothing), value with
    | true, some value => .error (.unneededValue o value)
    | true, none => s.flag command o
    | false, some value => s.attached o value
    | false, none => s.await o

/-- The letters behind one hyphen. The first one that takes a value takes the rest. -/
def letters (command : Option CommandName) (options : List OptionName) :
    Scan → List Char → Except ArgumentError Scan
  | s, [] => .ok s
  | s, c :: cs =>
    match options.find? (fun o => o.letter? == some c) with
    | none => .error (.unexpectedArgument (String.ofList ['-', c]))
    | some o =>
      if o.kind = .nothing then do
        letters command options (← s.flag command o) cs
      else
        match cs with
        | [] => s.await o
        | '=' :: value => s.attached o (String.ofList value)
        | value => s.attached o (String.ofList value)

/-- An argument that is no option: the value that is awaited, or unexpected. -/
def plain (s : Scan) (argument : String) : Except ArgumentError Scan :=
  match s.pending with
  | some (o, none) => .ok { s with pending := some (o, some argument) }
  | _ => .error (.unexpectedArgument argument)

/-- The next argument. -/
def step (command : Option CommandName) (options : List OptionName) (s : Scan)
    (argument : String) : Except ArgumentError Scan :=
  if s.closed then
    .error (.unexpectedArgument argument)
  else
    match argument.toList with
    | ['-', '-'] => .ok { s with closed := true }
    | '-' :: '-' :: body => s.longArgument command options body
    | '-' :: c :: cs => letters command options s (c :: cs)
    | _ => s.plain argument

/-- Scans all arguments behind a command. -/
def run (command : CommandName) (options : List OptionName) (arguments : List String) :
    Except ArgumentError Given := do
  let s ← arguments.foldlM (step (some command) options) start
  pure (← s.settle).given

end Scan

end SyntheticLoad.CommandLine

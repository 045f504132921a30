import SyntheticLoad.CommandLine.Setting
import SyntheticLoad.Text.Cut
import SyntheticLoad.Text.Terminal

/-!
# Faults of arguments

What can be wrong with the arguments of the program, and how that is reported. A
wish for help is treated like a fault, as nothing is run then either. A report is
worded for a terminal, and written as a terminal would show it.
-/

namespace SyntheticLoad.CommandLine

open Text

/-- The commands. -/
inductive CommandName
  | send
  | replay
  | scenario
  | sample
  deriving DecidableEq, Repr

/-- Why no command is run. -/
inductive ArgumentError
  /-- Help is asked for, on a command or on all of them. -/
  | help (command : Option CommandName)
  /-- There is no command. -/
  | noCommand
  /-- There is no such command. -/
  | unknownCommand (given : String)
  /-- Nothing is known that could be given so. -/
  | unexpectedArgument (given : String)
  /-- The value of an option is missing. -/
  | missingValue (option : OptionName)
  /-- An option is given once more. -/
  | repeated (option : OptionName)
  /-- A text is no value of an option. -/
  | badValue (option : OptionName) (given : String) (fault : ValueFault)
  /-- An option that takes nothing is given a value. -/
  | unneededValue (option : OptionName) (given : String)
  deriving DecidableEq, Repr

/-- What is wrong with a value, in words. -/
def ValueFault.message : ValueFault → String
  | .empty => ""
  | .numeral e => e.message
  | .shape e => e.message
  | .header e => e.message

namespace ArgumentError

/-- The wording of a missing value. -/
def missingText (o : OptionName) : String :=
  "a value is required for '" ++ emphasized o.text ++ "' but none was supplied"

/-- The wording of a fault, if there is one and not only a wish for help. What was given
    is emphasised, as are the options. -/
def message? : ArgumentError → Option String
  | .help _ => none
  | .noCommand => none
  | .unknownCommand given => some ("unrecognized subcommand '" ++ emphasized given ++ "'")
  | .unexpectedArgument given => some ("unexpected argument '" ++ emphasized given ++ "' found")
  | .missingValue o => some (missingText o)
  | .repeated o =>
    some ("the argument '" ++ emphasized o.text ++ "' cannot be used multiple times")
  | .badValue o given fault =>
    match fault with
    | .empty => some (missingText o)
    | fault =>
      some ("invalid value '" ++ emphasized given ++ "' for '" ++ emphasized o.text ++ "': " ++
        fault.message)
  | .unneededValue o given =>
    some ("unexpected value '" ++ emphasized given ++ "' for '" ++ emphasized o.text ++
      "' found; no more were expected")

/-- What follows every fault. -/
def hint : String := "\n\nFor more information, try '" ++ emphasized "--help" ++ "'.\n"

/-- A fault as it is printed where there is no terminal. -/
def text? (e : ArgumentError) : Option String :=
  e.message?.map fun message =>
    String.ofList (visible (emphasized "error:" ++ " " ++ message ++ hint).toList)

/-- The first line of a fault as it is printed. -/
def firstLine? (e : ArgumentError) : Option String :=
  e.text?.map fun s => String.ofList (firstLine s.toList)

end ArgumentError

end SyntheticLoad.CommandLine

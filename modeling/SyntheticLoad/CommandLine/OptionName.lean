import SyntheticLoad.Text.Blank

/-!
# Options

The options of all commands by their names, and what each of them takes: nothing, a
text, a path, a number, a shape or a header. An option is written after two hyphens;
three of them can also be written by a letter after one hyphen. In messages the value
of an option has its name in capitals (`--delay-ms <DELAY_MS>`).
-/

namespace SyntheticLoad.CommandLine

/-- An option. -/
inductive OptionName
  | authToken
  | baseUrl
  | captureBody
  | concurrency
  | count
  | delayMs
  | endpoint
  | header
  | help
  | iterations
  | metricsOutput
  | password
  | pretty
  | progressInterval
  | requests
  | schemaName
  | seed
  | shape
  | users
  | waitMaxMs
  | waitMinMs
  deriving DecidableEq, Repr

/-- What an option takes. -/
inductive ValueKind
  | nothing
  | text
  | path
  | number
  | shape
  | header
  deriving DecidableEq, Repr

namespace OptionName

/-- The name of an option behind its two hyphens. -/
def word : OptionName → String
  | authToken => "auth-token"
  | baseUrl => "base-url"
  | captureBody => "capture-body"
  | concurrency => "concurrency"
  | count => "count"
  | delayMs => "delay-ms"
  | endpoint => "endpoint"
  | header => "header"
  | help => "help"
  | iterations => "iterations"
  | metricsOutput => "metrics-output"
  | password => "password"
  | pretty => "pretty"
  | progressInterval => "progress-interval"
  | requests => "requests"
  | schemaName => "schema-name"
  | seed => "seed"
  | shape => "shape"
  | users => "users"
  | waitMaxMs => "wait-max-ms"
  | waitMinMs => "wait-min-ms"

/-- The letter of an option behind one hyphen. -/
def letter? : OptionName → Option Char
  | concurrency => some 'c'
  | help => some 'h'
  | requests => some 'n'
  | _ => none

/-- What an option takes. -/
def kind : OptionName → ValueKind
  | captureBody => .nothing
  | help => .nothing
  | pretty => .nothing
  | metricsOutput => .path
  | shape => .shape
  | header => .header
  | authToken => .text
  | baseUrl => .text
  | endpoint => .text
  | password => .text
  | schemaName => .text
  | concurrency => .number
  | count => .number
  | delayMs => .number
  | iterations => .number
  | progressInterval => .number
  | requests => .number
  | seed => .number
  | users => .number
  | waitMaxMs => .number
  | waitMinMs => .number

/-- Whether an option may be given more than once. -/
def isRepeatable (o : OptionName) : Bool := o = header

/-- The name of an option's value. -/
def valueName (o : OptionName) : String :=
  String.ofList (o.word.toList.map fun c => if c = '-' then '_' else c.toUpper)

/-- An option as it stands in a message. -/
def text (o : OptionName) : String :=
  match o.kind with
  | .nothing => "--" ++ o.word
  | _ => "--" ++ o.word ++ " <" ++ o.valueName ++ ">"

end OptionName

end SyntheticLoad.CommandLine

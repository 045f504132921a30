import SyntheticLoad.CommandLine.Command

/-!
# Help

What the program prints about itself: what it is for, how it is called, and a table
of its commands or of the options of one command. The second column of a table begins
two spaces behind the longest entry of the first.
-/

namespace SyntheticLoad.CommandLine

open Text

/-- The name under which the program is called. -/
def programName : String := "ingest-loadgen"

/-- What the program is for. -/
def programPurpose : String := "Send synthetic JSON records to an HTTP ingestion endpoint"

namespace CommandName

/-- What a command does. -/
def purpose : CommandName → String
  | send => "Send generated records concurrently"
  | replay => "Send one generated payload repeatedly"
  | scenario => "Run the register/login/browse session scenario"
  | sample => "Print generated envelopes to stdout"

end CommandName

namespace OptionName

/-- What an option is for. -/
def purpose : OptionName → String
  | authToken => "Value of the Authorization header (sent verbatim)"
  | baseUrl => "Base URL of the API gateway"
  | captureBody => "Read response bodies and log them"
  | concurrency => "Maximum number of requests in flight"
  | count => "Number of envelopes to send or to print"
  | delayMs => "Pause between sends in milliseconds"
  | endpoint => "Ingestion endpoint receiving the POSTed envelopes"
  | header => "Extra header as 'Name: value' (repeatable)"
  | help => "Print help"
  | iterations => "Tasks each user performs after logging in"
  | metricsOutput => "Write the run summary as JSON to this file"
  | password => "Password virtual users register with"
  | pretty => "Pretty-print the JSON"
  | progressInterval => "Log progress every N completed requests (0 disables)"
  | requests => "Number of requests to send"
  | schemaName => "Schema name to put in the envelope instead of the shape name"
  | seed => "Random seed for reproducible payloads (random when omitted)"
  | shape => "Record shape: user, transaction, event, profile or mixed"
  | users => "Number of concurrent virtual users"
  | waitMaxMs => "Maximum pause between tasks in milliseconds"
  | waitMinMs => "Minimum pause between tasks in milliseconds"

/-- An option in the table of options. -/
def entry (o : OptionName) : String :=
  match o.letter? with
  | none => "    " ++ o.text
  | some c => "-" ++ String.singleton c ++ ", " ++ o.text

end OptionName

/-- The length of the longest of some texts. -/
def longest (texts : List String) : Nat := texts.foldl (fun n s => max n s.length) 0

/-- The lines of a table with two columns. -/
def tableLines (rows : List (String × String)) : List String :=
  let width := longest (rows.map Prod.fst)
  rows.map fun (entry, purpose) =>
    "  " ++ entry ++ String.ofList (List.replicate (width - entry.length) ' ') ++ "  " ++ purpose

/-- A help text from what it is about, how to call it, and its tables. -/
def helpPage (purpose usage : String) (tables : List (String × List (String × String))) : String :=
  let table : String × List (String × String) → List String := fun (title, rows) =>
    "" :: (title ++ ":") :: tableLines rows
  "\n".intercalate (purpose :: "" :: ("Usage: " ++ programName ++ " " ++ usage) ::
    tables.flatMap table) ++ "\n"

/-- The table of commands. -/
def commandRows : List (String × String) :=
  (CommandName.all.map fun c => (c.word, c.purpose)) ++
    [(Command.helpWord, "Print this message or the help of the given subcommand(s)")]

/-- A row of the table of options. -/
def optionRow (o : OptionName) : String × String := (o.entry, o.purpose)

/-- The help on the program, or on one of its commands. -/
def helpText : Option CommandName → String
  | none =>
    helpPage programPurpose "<COMMAND>" [("Commands", commandRows), ("Options", [optionRow .help])]
  | some c =>
    helpPage c.purpose (c.word ++ " [OPTIONS]") [("Options", c.options.map optionRow)]

end SyntheticLoad.CommandLine

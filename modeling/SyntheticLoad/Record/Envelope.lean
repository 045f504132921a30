import SyntheticLoad.Json.Number
import SyntheticLoad.Json.Printer
import SyntheticLoad.Record.Value

/-!
# Envelopes

What is sent is an envelope: a record under the name of its schema. Its document
has the members `schema_name` and `data`, in this order. A value is written as
the JSON value of its type; an instant is written as a string.
-/

namespace SyntheticLoad

mutual

/-- A value as a document. -/
def Value.toJson : Value → Json
  | .text s => .text s
  | .int n => Json.ofInt n.toInt
  | .float x => Json.ofFloat x
  | .bool b => .bool b
  | .instant t => .text (String.ofList t.text)
  | .list items => .array (items.map Json.text)
  | .map entries => .object (Value.entriesToJson entries)

/-- The entries of a record as members of an object, in the same order. -/
def Value.entriesToJson : List (String × Value) → List (String × Json)
  | [] => []
  | (key, value) :: entries => (key, value.toJson) :: Value.entriesToJson entries

end

/-- A record as a document. -/
def Record.toJson (r : Record) : Json := .object (Value.entriesToJson r)

/-- A record under the name of its schema. -/
structure Envelope where
  /-- The name of the schema. -/
  schemaName : String
  /-- The record. -/
  data : Record
  deriving Repr

namespace Envelope

/-- An envelope as a document. -/
def toJson (e : Envelope) : Json :=
  .object [("schema_name", .text e.schemaName), ("data", Record.toJson e.data)]

/-- The text that is sent: the compact document. -/
def body (e : Envelope) : String := e.toJson.toText

/-- The number of bytes that are sent. -/
def byteLength (e : Envelope) : Nat := e.body.utf8ByteSize

end Envelope

end SyntheticLoad

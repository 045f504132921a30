/-!
# JSON documents

A document as a tree. A number is kept as the text of its token, so a document
holds integers of any size and every float exactly as written, and an object is
the list of its members in the order in which they stand.
-/

namespace SyntheticLoad

/-- A JSON document. -/
inductive Json
  | null
  | bool (b : Bool)
  /-- A number, by its token. -/
  | number (token : String)
  | text (s : String)
  | array (items : List Json)
  | object (members : List (String × Json))
  deriving Repr

end SyntheticLoad

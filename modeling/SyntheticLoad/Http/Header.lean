import SyntheticLoad.Text.Blank

/-!
# Headers

A header has a name, which is a token of ASCII characters without regard to case,
and a value, which may hold tabs and all characters but the control characters. A
map of headers has one value for each name, and setting a name again replaces its
value (`HeaderMap.set`). Names are kept in lower case.

One thing is left aside: a map has room for any number of names here, while a client
that keeps its headers in a table of a limited size breaks down when it is given more
than 24576 different ones.
-/

namespace SyntheticLoad.Http

open Text

/-- What is wrong with a header. -/
inductive HeaderFault
  | invalidName
  | invalidValue
  deriving DecidableEq, Repr

/-- The wording of a fault. -/
def HeaderFault.message : HeaderFault → String
  | .invalidName => "invalid HTTP header name"
  | .invalidValue => "failed to parse header value"

/-- Whether a character may stand in a name. -/
def isNameChar (c : Char) : Bool :=
  c.isAlphanum || "!#$%&\x27*+-.^_\x60|~".contains c

/-- The longest name there is. -/
def longestName : Nat := 65535

/-- Whether a text is a name. -/
def isHeaderName (s : String) : Bool :=
  s != "" && s.length ≤ longestName && s.toList.all isNameChar

/-- Whether a character may stand in a value. -/
def isValueChar (c : Char) : Bool := c == '\t' || (32 ≤ c.toNat && c.toNat != 127)

/-- Whether a text is a value. -/
def isHeaderValue (s : String) : Bool := s.toList.all isValueChar

/-- The name in lower case. -/
def headerKey (name : String) : String := String.ofList (lower name.toList)

/-- The values of some headers, by their names in lower case. -/
abbrev HeaderMap := List (String × String)

namespace HeaderMap

/-- The value under a key. -/
def get? (m : HeaderMap) (key : String) : Option String := m.lookup key

/-- Sets the value under a key. There is always room for one more key. -/
def put (key value : String) : HeaderMap → HeaderMap
  | [] => [(key, value)]
  | (k, v) :: rest => if k = key then (key, value) :: rest else (k, v) :: put key value rest

/-- Sets the value of a header, if the name and the value may be sent. The name is
    looked at first. -/
def set (m : HeaderMap) (name value : String) : Except HeaderFault HeaderMap :=
  if !isHeaderName name then
    .error .invalidName
  else if !isHeaderValue value then
    .error .invalidValue
  else
    .ok (put (headerKey name) value m)

end HeaderMap

end SyntheticLoad.Http

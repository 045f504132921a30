import SyntheticLoad.Time.Instant

/-!
# Values and records

A field of a record holds a value of one of seven types. A record is the list of
its entries in increasing order of their keys, each key once; the order is that
of the code points. `Record.insert` keeps it so and replaces the value of a key
that is there already, hence a record built from a list of entries holds the last
value given for each key.
-/

namespace SyntheticLoad

open Time

/-- A value of a field. -/
inductive Value
  | text (s : String)
  | int (n : Int64)
  | float (x : Float)
  | bool (b : Bool)
  | instant (t : Instant)
  /-- A list of strings. -/
  | list (items : List String)
  /-- A nested record. -/
  | map (entries : List (String × Value))
  deriving Repr

/-- The entries of a record, in increasing order of their keys. -/
abbrev Record := List (String × Value)

/-- The type of a value. -/
inductive ValueType
  | text
  | int
  | float
  | bool
  | instant
  | list
  | map
  deriving DecidableEq, Repr

namespace Value

/-- The type of a value. -/
def type : Value → ValueType
  | text _ => .text
  | int _ => .int
  | float _ => .float
  | bool _ => .bool
  | instant _ => .instant
  | list _ => .list
  | map _ => .map

/-- The string that a value is. -/
def text? : Value → Option String
  | text s => some s
  | _ => none

/-- The integer that a value is. -/
def int? : Value → Option Int64
  | int n => some n
  | _ => none

/-- The float that a value is. -/
def float? : Value → Option Float
  | float x => some x
  | _ => none

/-- The list that a value is. -/
def list? : Value → Option (List String)
  | list items => some items
  | _ => none

/-- The record that a value is. -/
def map? : Value → Option Record
  | map entries => some entries
  | _ => none

mutual

/-- Whether two values are equal. Floats are compared as numbers, so the two zeros
    are equal, and what is no number equals nothing. -/
def same : Value → Value → Bool
  | text a, text b => a == b
  | int a, int b => a == b
  | float a, float b => a == b
  | bool a, bool b => a == b
  | instant a, instant b => a == b
  | list a, list b => a == b
  | map a, map b => sameEntries a b
  | _, _ => false

/-- Whether two lists of entries are equal, entry by entry. -/
def sameEntries : List (String × Value) → List (String × Value) → Bool
  | [], [] => true
  | (k, v) :: a, (k', v') :: b => k == k' && same v v' && sameEntries a b
  | _, _ => false

end

end Value

namespace Record

/-- The keys of a record. -/
def keys (r : Record) : List String := r.map Prod.fst

/-- Puts a value under a key, in the place of an earlier one. -/
def insert (key : String) (value : Value) : Record → Record
  | [] => [(key, value)]
  | (k, v) :: rest =>
    if key < k then (key, value) :: (k, v) :: rest
    else if key = k then (key, value) :: rest
    else (k, v) :: insert key value rest

/-- The record of some entries: the last value given for each key. -/
def ofEntries (entries : List (String × Value)) : Record :=
  entries.foldl (fun r (k, v) => insert k v r) []

/-- The value under a key. -/
def find? (key : String) (r : Record) : Option Value := r.lookup key

/-- The keys stand in increasing order, each once. -/
def Ordered (r : Record) : Prop := r.Pairwise fun a b => a.1 < b.1

end Record

end SyntheticLoad

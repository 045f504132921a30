import SyntheticLoad.Record.Value

/-!
# Kinds of fields

A shape declares its fields: a name, and the kind of value that is drawn for it.
-/

namespace SyntheticLoad

/-- How the value of a field is drawn. -/
inductive FieldKind
  /-- A random identifier. -/
  | uuid
  | letters (length : Nat)
  | alphanumeric (length : Nat)
  /-- A text after a template. -/
  | template (text : String)
  | intRange (low high : Int64)
  | floatRange (low high : Float)
  | bool
  | oneOf (choices : List String)
  | oneOfInt (choices : List Int64)
  /-- A second of the last so many days. -/
  | recentInstant (days : UInt32)
  /-- Items of a pool, none taken twice. -/
  | selection (pool : List String) (low high : Nat)
  | textList (low high length : Nat)
  /-- A record of its own. -/
  | nested (fields : List (String × FieldKind))
  /-- A record of random keys and texts. -/
  | randomKeys (count keyLength low high : Nat)
  deriving Repr

/-- A declared field: its name and its kind. -/
abbrev Field := String × FieldKind

namespace FieldKind

/-- The type of the values of a kind. -/
def type : FieldKind → ValueType
  | uuid | letters _ | alphanumeric _ | template _ | oneOf _ => .text
  | intRange _ _ | oneOfInt _ => .int
  | floatRange _ _ => .float
  | bool => .bool
  | recentInstant _ => .instant
  | selection _ _ _ | textList _ _ _ => .list
  | nested _ | randomKeys _ _ _ _ => .map

mutual

/-- Whether two kinds are equal. Floats are compared as numbers. -/
def same : FieldKind → FieldKind → Bool
  | uuid, uuid => true
  | letters a, letters b => a == b
  | alphanumeric a, alphanumeric b => a == b
  | template a, template b => a == b
  | intRange a b, intRange c d => a == c && b == d
  | floatRange a b, floatRange c d => a == c && b == d
  | bool, bool => true
  | oneOf a, oneOf b => a == b
  | oneOfInt a, oneOfInt b => a == b
  | recentInstant a, recentInstant b => a == b
  | selection a b c, selection d e f => a == d && b == e && c == f
  | textList a b c, textList d e f => a == d && b == e && c == f
  | nested a, nested b => sameFields a b
  | randomKeys a b c d, randomKeys e f g h => a == e && b == f && c == g && d == h
  | _, _ => false

/-- Whether two lists of fields are equal, field by field. -/
def sameFields : List (String × FieldKind) → List (String × FieldKind) → Bool
  | [], [] => true
  | (n, k) :: a, (n', k') :: b => n == n' && same k k' && sameFields a b
  | _, _ => false

end

end FieldKind

/-- Whether two fields have the same name and the same kind. -/
def Field.same (a b : Field) : Bool := a.1 == b.1 && a.2.same b.2

end SyntheticLoad

/-!
# Notices

What a run reports while it is under way: a line of text with a level.
-/

namespace SyntheticLoad

/-- How important a notice is. -/
inductive Level
  | debug
  | info
  | warn
  deriving DecidableEq, Repr

/-- The name of a level. -/
def Level.name : Level → String
  | debug => "DEBUG"
  | info => "INFO"
  | warn => "WARN"

/-- A notice. -/
structure Notice where
  level : Level
  text : String
  deriving DecidableEq, Repr

/-- A notice as a line. -/
def Notice.line (n : Notice) : String := n.level.name ++ " " ++ n.text

end SyntheticLoad

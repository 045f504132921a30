/-!
# Text without terminal controls

A terminal takes a control sequence out of the text it shows: it starts with an
escape character, and its form says where it ends. `visible` is what is left of a
text, which is also what is written where there is no terminal. Blanks that
move the position stay, and end a sequence of the shorter kinds that is not over.

A text is emphasised by a sequence before it and one after it (`emphasized`).
-/

namespace SyntheticLoad.Text

/-- Where in a control sequence a terminal is. -/
inductive ControlState
  /-- In none. -/
  | plain
  /-- After the escape character. -/
  | escaped
  /-- In a sequence of an escape character and a few others. -/
  | short
  /-- In a sequence with parameters, which a letter ends. -/
  | parameters
  /-- In a title, which a bell ends. -/
  | title
  /-- At the start of a message to a device, before its first letter: in its
      parameters, or behind them if there was another sign. -/
  | deviceHead (isOver : Bool)
  /-- In a message, which its own terminator ends. -/
  | message
  deriving DecidableEq, Repr

/-- The blanks that a terminal obeys even within a sequence. -/
def isMovement (c : Char) : Bool :=
  c == '\t' || c == '\n' || c == '\x0c' || c == '\r'

/-- What the character after an escape character begins. -/
def ControlState.afterEscape (c : Char) : ControlState :=
  if c = '[' then .parameters
  else if c = ']' then .title
  else if c = 'P' then .deviceHead false
  else if c = 'X' || c = '^' || c = '_' then .message
  else if '0' ≤ c && c ≤ '~' then .plain
  else if ' ' ≤ c && c ≤ '/' then .short
  else .escaped

namespace ControlState

/-- The state after a character at the start of a message to a device. A parameter
    after the parameters spoils the start. -/
def afterDeviceHead (isOver : Bool) (c : Char) : ControlState :=
  if '@' ≤ c && c ≤ '~' then .message
  else if ' ' ≤ c && c ≤ '/' then .deviceHead true
  else if '0' ≤ c && c ≤ '?' then if isOver then .message else .deviceHead false
  else .deviceHead isOver

/-- The state after a character within a sequence that movements end. -/
def afterWithin (s : ControlState) (first : Char) (c : Char) : ControlState :=
  if first ≤ c && c ≤ '~' then .plain else s

/-- The state after a character, and whether the character is shown. An escape
    character always begins a sequence, and two other controls end any. -/
def next (s : ControlState) (c : Char) : ControlState × Bool :=
  if c = '\x1b' then
    (.escaped, false)
  else if c = '\x18' || c = '\x1a' then
    (.plain, false)
  else
    match s with
    | .plain => (.plain, isMovement c || (' ' ≤ c && c ≠ '\x7f'))
    | .escaped => if isMovement c then (.plain, true) else (afterEscape c, false)
    | .short => if isMovement c then (.plain, true) else (s.afterWithin '0' c, false)
    | .parameters => if isMovement c then (.plain, true) else (s.afterWithin '@' c, false)
    | .title => (if c = '\x07' then .plain else .title, false)
    | .deviceHead isOver => (afterDeviceHead isOver c, false)
    | .message =>
      (if (String.utf8EncodeChar c).contains 0x9C then .plain else .message, false)

/-- What is shown of a text that begins in a state. -/
def shown : ControlState → List Char → List Char
  | _, [] => []
  | s, c :: cs =>
    let (after, isShown) := s.next c
    if isShown then c :: shown after cs else shown after cs

end ControlState

/-- The text without control characters and control sequences. -/
def visible (cs : List Char) : List Char :=
  ControlState.plain.shown cs

/-- A text in bold type where there is a terminal. -/
def emphasized (s : String) : String := "\x1b[1m" ++ s ++ "\x1b[0m"

end SyntheticLoad.Text

import SyntheticLoad.Text.Cut

/-!
# Files to write to

A tree of directories and files, and what happens when a file is written by its
path. The path is walked from the root or from the working directory; every
component but the last has to be a directory. A file that is not there yet is
made, in a directory that is. A path that ends with a slash names a directory, be
there one or not, and neither a path nor a component may be too long.
-/

namespace SyntheticLoad.Files

open Text

/-- A file, or a directory with its entries. -/
inductive Node
  | file
  /-- A file that takes nothing more. -/
  | full
  | directory (entries : List (String × Node))
  deriving Repr

/-- Why a path cannot be written to. -/
inductive WriteError
  /-- A component of the path is not there. -/
  | notFound
  /-- The path leads to a directory. -/
  | isDirectory
  /-- A component before the last is a file. -/
  | notDirectory
  /-- The path holds a character that ends names. -/
  | endOfName
  /-- The path or one of its components is too long. -/
  | tooLong
  /-- There is no room in the file. -/
  | noSpace
  /-- Any other fault, in the words of the system. -/
  | other (words : String)
  deriving DecidableEq, Repr

/-- The wording of a fault. -/
def WriteError.message : WriteError → String
  | .notFound => "No such file or directory (os error 2)"
  | .isDirectory => "Is a directory (os error 21)"
  | .notDirectory => "Not a directory (os error 20)"
  | .endOfName => "file name contained an unexpected NUL byte"
  | .tooLong => "File name too long (os error 36)"
  | .noSpace => "No space left on device (os error 28)"
  | .other words => words

/-- The entry of a directory. -/
def Node.entry? : Node → String → Option Node
  | .directory entries, name => entries.lookup name
  | _, _ => none

/-- The bytes that a component may have. -/
def longestName : Nat := 255

/-- The bytes that a path may have. -/
def longestPath : Nat := 4095

/-- Walks the components of a path from the innermost of some open directories. -/
def walk : List Node → List String → Except WriteError Unit
  | [], _ => .error .notFound
  | .file :: _, [] => .ok ()
  | .full :: _, [] => .error .noSpace
  | .directory _ :: _, [] => .error .isDirectory
  | .file :: _, _ :: _ => .error .notDirectory
  | .full :: _, _ :: _ => .error .notDirectory
  | here :: above, name :: rest =>
    if name = "" ∨ name = "." then
      walk (here :: above) rest
    else if name = ".." then
      match above with
      | [] => walk [here] rest
      | parent :: above => walk (parent :: above) rest
    else if rest ≠ [] ∧ rest.all (· = "") then
      .error .isDirectory
    else if longestName < name.utf8ByteSize then
      .error .tooLong
    else
      match here.entry? name with
      | some node => walk (node :: here :: above) rest
      | none => if rest = [] then .ok () else .error .notFound

/-- What comes of writing a file under a path: `root` is the whole tree, and
    `working` the open directories from the working directory up. -/
def write (root : Node) (working : List Node) (path : String) : Except WriteError Unit :=
  let cs := path.toList
  if cs.contains '\x00' then
    .error .endOfName
  else if longestPath < path.utf8ByteSize then
    .error .tooLong
  else
    match cs with
    | [] => .error .notFound
    | '/' :: cs => walk [root] ((split '/' cs).map String.ofList)
    | cs => walk working ((split '/' cs).map String.ofList)

end SyntheticLoad.Files

import SyntheticLoad.Url.Basic
import SyntheticLoad.Url.Percent

/-!
# Paths

A path is read segment by segment. A segment of one dot stands for the place it is
in, and one of two dots for the place above; a dot may be written `%2e`. Such
segments do not stay in the path, but at its end they leave an empty one. There is
no place above a drive letter, whatever the scheme.

A drive letter that begins the path of a file is written with a colon. Empty
segments in front of a file's path do not count, but what follows them does not
begin the path.
-/

namespace SyntheticLoad.Url

/-- What a segment means. -/
inductive Segment
  /-- The place it is in. -/
  | here
  /-- The place above. -/
  | above
  | name (encoded : List Char)
  deriving DecidableEq, Repr

/-- The dots at the start of a text, and the rest. -/
def takeDots : List Char → Nat × List Char
  | '.' :: rest =>
    let (n, rest) := takeDots rest
    (n + 1, rest)
  | '%' :: '2' :: e :: rest =>
    if e = 'e' ∨ e = 'E' then
      let (n, rest) := takeDots rest
      (n + 1, rest)
    else
      (0, '%' :: '2' :: e :: rest)
  | cs => (0, cs)

/-- What an encoded segment means. -/
def Segment.ofText (encoded : List Char) : Segment :=
  match takeDots encoded with
  | (1, []) => .here
  | (2, []) => .above
  | _ => .name encoded

/-- Splits a path at its slashes. -/
def splitPath (backslash : Bool) : List Char → List (List Char)
  | [] => [[]]
  | c :: rest =>
    if c = '/' ∨ (backslash ∧ c = '\\') then
      [] :: splitPath backslash rest
    else
      match splitPath backslash rest with
      | [] => [[c]]
      | piece :: pieces => (c :: piece) :: pieces

/-- Whether a segment is a drive letter with a colon or a bar. -/
def isDrive (segment : List Char) : Bool :=
  match segment with
  | [letter, mark] => letter.isAlpha && (mark == ':' || mark == '|')
  | _ => false

/-- A drive letter with a colon. -/
def withColon (drive : List Char) : List Char := drive.take 1 ++ [':']

/-- The path without its last segment. A drive letter stays. -/
def leave (path : List (List Char)) : List (List Char) :=
  if path.getLast?.any isDrive then path else path.dropLast

/-- A path that has been followed to somewhere. -/
structure PathWalk where
  segments : List (List Char)
  /-- Whether it is the path of a file that begins with a drive letter. -/
  onDrive : Bool
  deriving DecidableEq, Repr

namespace PathWalk

/-- The walk that has gone nowhere. -/
def start : PathWalk := ⟨[], false⟩

/-- Goes on to a segment. -/
def enter (isFile : Bool) (walk : PathWalk) (segment : List Char) : PathWalk :=
  if isFile && walk.segments.isEmpty && isDrive segment then
    ⟨[withColon segment], true⟩
  else
    { walk with segments := walk.segments ++ [segment] }

/-- Follows the segments of a text. Dots at its end leave an empty segment. -/
def follow (isFile : Bool) : PathWalk → List (List Char) → PathWalk
  | walk, [] => walk
  | walk, segment :: rest =>
    let stay (path : List (List Char)) : PathWalk :=
      { walk with segments := if rest.isEmpty then path ++ [[]] else path }
    match Segment.ofText segment with
    | .here => follow isFile (stay walk.segments) rest
    | .above => follow isFile (stay (leave walk.segments)) rest
    | .name encoded => follow isFile (walk.enter isFile encoded) rest

end PathWalk

/-- The path without empty segments in front; one segment stays. -/
def dropEmpty : List (List Char) → List (List Char)
  | [] :: next :: rest => dropEmpty (next :: rest)
  | path => path

/-- Follows the path of a text without its first slash. -/
def walkPath (kind : SchemeKind) (cs : List Char) : PathWalk :=
  PathWalk.start.follow (kind = .file)
    ((splitPath kind.backslashIsSlash cs).map (percentEncode pathSet))

/-- The path of a walk. -/
def PathWalk.path (kind : SchemeKind) (walk : PathWalk) : UrlPath :=
  let segments := if kind = .file then dropEmpty walk.segments else walk.segments
  .segments (segments.map String.ofList)

/-- The path of a text without its first slash. -/
def readPath (kind : SchemeKind) (cs : List Char) : UrlPath := (walkPath kind cs).path kind

end SyntheticLoad.Url

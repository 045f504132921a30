import SyntheticLoad.Text.Blank
import SyntheticLoad.Url.Host
import SyntheticLoad.Url.Path

/-!
# Reading addresses

Control characters and spaces around an address do not count, nor do tabs and line
breaks inside. The scheme decides what follows: in a special scheme any number of
slashes and then a host, in the scheme of files perhaps a host, and in any other
scheme a host only after two slashes. An address without a scheme is none, as there
is nothing it could be relative to.
-/

namespace SyntheticLoad.Url

open Text

/-- Whether a character may stand in a scheme. -/
def isSchemeChar (c : Char) : Bool := c.isAlphanum || c == '+' || c == '-' || c == '.'

/-- The scheme in lower case, and what follows its colon. -/
def readScheme (cs : List Char) : Option (String × List Char) :=
  match cs with
  | [] => none
  | c :: _ =>
    if c.isAlpha then
      match cs.dropWhile isSchemeChar with
      | ':' :: rest => some (String.ofList (lower (cs.takeWhile isSchemeChar)), rest)
      | _ => none
    else
      none

/-- Whether a character ends the part of an address with the host. -/
def endsAuthority (kind : SchemeKind) (c : Char) : Bool :=
  c == '/' || c == '?' || c == '#' || (kind.backslashIsSlash && c == '\\')

/-- The text before and after the last `@`, if there is one. -/
def cutLastAt (cs : List Char) : Option (List Char × List Char) :=
  (cut '@' cs.reverse).map fun (after, before) => (before.reverse, after.reverse)

/-- The host with its brackets, and what follows it. -/
def takeHost : Bool → List Char → List Char × List Char
  | _, [] => ([], [])
  | inBrackets, c :: rest =>
    if c = ':' ∧ ¬inBrackets then
      ([], c :: rest)
    else
      let inBrackets := if c = '[' then true else if c = ']' then false else inBrackets
      let (host, after) := takeHost inBrackets rest
      (c :: host, after)

/-- The port after a host, and what follows it. The default port of the scheme counts
    as none. A backslash ends a port in any scheme. -/
def readPort (scheme : String) (cs : List Char) : Except UrlError (Option Nat × List Char) :=
  match cs with
  | [] => .ok (none, [])
  | ':' :: cs =>
    let digits := cs.takeWhile (· ≠ '\\')
    let rest := cs.dropWhile (· ≠ '\\')
    if digits.isEmpty then
      .ok (none, rest)
    else if digits.head? = some '+' then
      .error .invalidPort
    else
      match readNat 65535 digits with
      | .error _ => .error .invalidPort
      | .ok port => .ok (if defaultPort? scheme = some port then none else some port, rest)
  | _ => .error .invalidPort

/-- The user's name and password. -/
def readUser (cs : List Char) : String × String :=
  let encode (cs : List Char) : String := String.ofList (percentEncode userSet cs)
  match cut ':' cs with
  | none => (encode cs, "")
  | some (name, password) => (encode name, encode password)

/-- The query and the fragment behind the path. -/
def readTail (kind : SchemeKind) (cs : List Char) : Option String × Option String :=
  let set := if kind = .other then querySet else specialQuerySet
  let fragment (cs : List Char) : String := String.ofList (percentEncode fragmentSet cs)
  match cs with
  | '?' :: rest =>
    match cut '#' rest with
    | none => (some (String.ofList (percentEncode set rest)), none)
    | some (query, after) => (some (String.ofList (percentEncode set query)), some (fragment after))
  | '#' :: rest => (none, some (fragment rest))
  | _ => (none, none)

/-- Whether a character ends a path. -/
def endsPath (c : Char) : Bool := c == '?' || c == '#'

/-- The path behind a host. In a special scheme it is never empty. -/
def readPathAfterHost (kind : SchemeKind) (cs : List Char) : UrlPath :=
  match cs with
  | [] => if kind = .other then .segments [] else readPath kind []
  | c :: rest =>
    if c = '/' ∨ (kind.backslashIsSlash ∧ c = '\\') then readPath kind rest else readPath kind cs

/-- The host and what follows it in an address with a host. -/
def readHost (kind : SchemeKind) (host : List Char) : Except UrlError Host :=
  match kind with
  | .special => if host.isEmpty then .error .emptyHost else Host.readSpecial host
  | .file => Host.readSpecial host
  | .other => Host.readOther host

/-- An address from behind the slashes in front of its host. -/
def readWithHost (kind : SchemeKind) (scheme : String) (cs : List Char) : Except UrlError Url := do
  let authority := cs.takeWhile fun c => !endsAuthority kind c
  let rest := cs.dropWhile fun c => !endsAuthority kind c
  let (user, hostAndPort) ← match cutLastAt authority with
    | none => pure ([], authority)
    | some ([], []) => if rest.isEmpty then pure ([], []) else throw .emptyHost
    | some parts => pure parts
  let (username, password) := readUser user
  let (hostText, portText) := takeHost false hostAndPort
  let host ← readHost kind hostText
  if hostText.isEmpty && (!portText.isEmpty || username != "" || password != "") then
    throw .emptyHost
  let (port, afterPort) ← readPort scheme portText
  let rest := afterPort ++ rest
  let (query, fragment) := readTail kind (rest.dropWhile fun c => !endsPath c)
  pure {
    scheme := scheme
    username := username
    password := password
    host := some host
    port := port
    path := readPathAfterHost kind (rest.takeWhile fun c => !endsPath c)
    query := query
    fragment := fragment }

/-- An address without a host, given its path and what follows. -/
def withoutHost (kind : SchemeKind) (scheme : String) (host : Option Host) (path : UrlPath)
    (rest : List Char) : Url :=
  let (query, fragment) := readTail kind rest
  { scheme := scheme
    username := ""
    password := ""
    host := host
    port := none
    path := path
    query := query
    fragment := fragment }

/-- The address of a file from behind its colon. A drive letter takes the place of a
    host. -/
def readFile (cs : List Char) : Except UrlError Url := do
  let isSlash (c : Char) : Bool := c == '/' || c == '\\'
  let path := cs.takeWhile fun c => !endsPath c
  let rest := cs.dropWhile fun c => !endsPath c
  let localFile (path : List Char) : Url :=
    withoutHost .file "file" (some (.domain "")) (readPath .file path) rest
  match path with
  | a :: b :: after =>
    if isSlash a && isSlash b then
      let hostText := after.takeWhile fun c => !isSlash c
      let behind := after.dropWhile fun c => !isSlash c
      if isDrive hostText || hostText.isEmpty then
        pure (localFile after)
      else
        let host ← Host.readSpecial hostText
        if host = .domain "localhost" then
          pure (localFile behind)
        else
          let walk := walkPath .file (behind.drop 1)
          let host := if walk.onDrive then .domain "" else host
          pure (withoutHost .file "file" (some host) (walk.path .file) rest)
    else if isSlash a then
      pure (localFile (b :: after))
    else
      pure (localFile path)
  | [a] => pure (localFile (if isSlash a then [] else [a]))
  | [] => pure (localFile [])

/-- An address in a scheme that is not special, from behind its colon. -/
def readOther (scheme : String) (cs : List Char) : Except UrlError Url :=
  match cs with
  | '/' :: '/' :: rest => readWithHost .other scheme rest
  | cs =>
    let path := cs.takeWhile fun c => !endsPath c
    let rest := cs.dropWhile fun c => !endsPath c
    match path with
    | '/' :: path => .ok (withoutHost .other scheme none (readPath .other path) rest)
    | path =>
      let text := String.ofList (percentEncode isControl path)
      .ok (withoutHost .other scheme none (.plain text) rest)

/-- Whether a character does not count inside an address. -/
def isIgnored (c : Char) : Bool := c == '\t' || c == '\n' || c == '\r'

/-- The address that a text stands for. -/
def parse (s : String) : Except UrlError Url :=
  let cs := (trimBy (fun c => c.toNat ≤ 32) s.toList).filter fun c => !isIgnored c
  match readScheme cs with
  | none => .error .noScheme
  | some (scheme, rest) =>
    match SchemeKind.ofScheme scheme with
    | .special =>
      readWithHost .special scheme (rest.dropWhile fun c => c == '/' || c == '\\')
    | .file => readFile rest
    | .other => readOther scheme rest

end SyntheticLoad.Url

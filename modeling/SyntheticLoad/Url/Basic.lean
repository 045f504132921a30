import SyntheticLoad.Text.Hex
import SyntheticLoad.Text.Numeral

/-!
# Addresses

An address has a scheme, perhaps a host with a port and with a user's name and
password, a path, and perhaps a query and a fragment. Its parts are kept as they
are written, that is, encoded. `Url.text` puts them together.

The schemes of the web are special: they need a host, and a backslash is a slash
to them. A scheme has a default port, which is not written.
-/

namespace SyntheticLoad

open Text

/-- The host of an address. -/
inductive Host
  | domain (name : String)
  /-- The number of an address of 32 bits. -/
  | ipv4 (address : Nat)
  /-- The eight pieces of an address of 128 bits. -/
  | ipv6 (pieces : List Nat)
  deriving DecidableEq, Repr

/-- The path of an address. -/
inductive UrlPath
  /-- Segments, each after a slash. -/
  | segments (names : List String)
  /-- A text without structure. -/
  | plain (text : String)
  deriving DecidableEq, Repr

/-- An address. -/
structure Url where
  scheme : String
  /-- The user's name, or nothing. -/
  username : String
  /-- The user's password, or nothing. -/
  password : String
  /-- The host. Local files have the empty domain. -/
  host : Option Host
  /-- The port, if it is not the default of the scheme. -/
  port : Option Nat
  path : UrlPath
  query : Option String
  fragment : Option String
  deriving DecidableEq, Repr

/-- Why a text is no address. -/
inductive UrlError
  | noScheme
  | emptyHost
  | invalidPort
  | invalidIpv4
  | invalidIpv6
  | invalidDomain
  | invalidDomainCharacter
  deriving DecidableEq, Repr

/-- The wording of a fault. -/
def UrlError.message : UrlError → String
  | .noScheme => "relative URL without a base"
  | .emptyHost => "empty host"
  | .invalidPort => "invalid port number"
  | .invalidIpv4 => "invalid IPv4 address"
  | .invalidIpv6 => "invalid IPv6 address"
  | .invalidDomain => "invalid international domain name"
  | .invalidDomainCharacter => "invalid domain character"

/-- The kinds of schemes. -/
inductive SchemeKind
  /-- A scheme of the web. -/
  | special
  /-- Files. -/
  | file
  /-- Any other scheme. -/
  | other
  deriving DecidableEq, Repr

namespace SchemeKind

/-- The kind of a scheme. -/
def ofScheme (scheme : String) : SchemeKind :=
  if scheme = "file" then .file
  else if ["http", "https", "ws", "wss", "ftp"].contains scheme then .special
  else .other

/-- Whether a backslash is a slash. -/
def backslashIsSlash : SchemeKind → Bool
  | special => true
  | file => true
  | other => false

end SchemeKind

/-- The default port of a scheme. -/
def defaultPort? (scheme : String) : Option Nat :=
  match scheme with
  | "http" => some 80
  | "ws" => some 80
  | "https" => some 443
  | "wss" => some 443
  | "ftp" => some 21
  | _ => none

namespace Host

/-- A 32-bit address as four numbers. -/
def ipv4Text (address : Nat) : List Char :=
  digits (address / 16777216) ++ '.' :: digits (address / 65536 % 256) ++
    '.' :: digits (address / 256 % 256) ++ '.' :: digits (address % 256)

/-- The length of the run of zeros at the start. -/
def zeroRun (pieces : List Nat) : Nat := (pieces.takeWhile (· == 0)).length

/-- The start and the length of the longest run of zeros; of several, the first. -/
def longestZeroRun : List Nat → Nat × Nat
  | [] => (0, 0)
  | piece :: pieces =>
    let run := zeroRun (piece :: pieces)
    let (start, length) := longestZeroRun pieces
    if length ≤ run then (0, run) else (start + 1, length)

/-- Pieces with colons between them. -/
def piecesText (pieces : List Nat) : List Char :=
  [':'].intercalate (pieces.map hexDigits)

/-- A 128-bit address. The longest run of two zeros or more is left out. -/
def ipv6Text (pieces : List Nat) : List Char :=
  let (start, length) := longestZeroRun pieces
  if 2 ≤ length then
    piecesText (pieces.take start) ++ [':', ':'] ++ piecesText (pieces.drop (start + length))
  else
    piecesText pieces

/-- A host as it is written in an address. -/
def text : Host → String
  | domain name => name
  | ipv4 address => String.ofList (ipv4Text address)
  | ipv6 pieces => String.ofList ('[' :: (ipv6Text pieces ++ [']']))

end Host

namespace Url

/-- Whether there is a host with a name or a number. -/
def hasHost (u : Url) : Bool := u.host.isSome && u.host != some (.domain "")

/-- The port that a connection goes to. -/
def targetPort? (u : Url) : Option Nat := u.port.or (defaultPort? u.scheme)

/-- Whether there is a user's name or password. -/
def hasUser (u : Url) : Bool := u.username != "" || u.password != ""

/-- The address without the user's name and password. -/
def withoutUser (u : Url) : Url := { u with username := "", password := "" }

/-- The path as it is written. -/
def pathText (u : Url) : String :=
  match u.path with
  | .plain text => text
  | .segments names => String.join (names.map ("/" ++ ·))

/-- The path and the query: what is asked of a server. -/
def target (u : Url) : String :=
  u.pathText ++ match u.query with
    | none => ""
    | some q => "?" ++ q

/-- The user's name and password as they stand before the host. -/
def userText (u : Url) : String :=
  if u.hasUser then
    u.username ++ (if u.password = "" then "" else ":" ++ u.password) ++ "@"
  else
    ""

/-- The host with the port. -/
def hostText (h : Host) (port : Option Nat) : String :=
  h.text ++ match port with
    | none => ""
    | some p => ":" ++ numeral p

/-- What stands between the scheme and the path. A path that would read as a host
    is kept apart by a dot. -/
def authorityText (u : Url) : String :=
  match u.host, u.path with
  | some h, _ => "//" ++ u.userText ++ hostText h u.port
  | none, .segments ("" :: _ :: _) => "/."
  | none, _ => ""

/-- An address as a text. -/
def text (u : Url) : String :=
  u.scheme ++ ":" ++ u.authorityText ++ u.target ++ match u.fragment with
    | none => ""
    | some f => "#" ++ f

end Url

end SyntheticLoad

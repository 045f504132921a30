import SyntheticLoad.Http.Header
import SyntheticLoad.Text.Base64
import SyntheticLoad.Text.Cut
import SyntheticLoad.Text.Numeral
import SyntheticLoad.Text.Utf8
import SyntheticLoad.Url.Parser

/-!
# Requests

A request goes to an address on the web. A user's name and password in the address
are sent as a header and not as a part of the address. The headers of a request are
those it has itself, and of the default ones those whose names it does not have.
A header may say how long the body is, and then no more of it is sent.

An exchange can go wrong at four points (`ExchangeFault`): the request cannot be
made at all, its address is not one to send to, there is no answer, or the body of
the answer cannot be read. The first and the last are reported without an address.
-/

namespace SyntheticLoad.Http

open Text

/-- What is asked of a server. -/
inductive Method
  | get
  | post
  deriving DecidableEq, Repr

/-- The name of a method. -/
def Method.name : Method → String
  | get => "GET"
  | post => "POST"

/-- A request that can be sent. -/
structure Request where
  method : Method
  /-- The address, without a user's name and password if they are sent as a header. -/
  url : Url
  /-- Names in lower case, and values. -/
  headers : List (String × String)
  body : String
  deriving DecidableEq, Repr

/-- What goes wrong in an exchange. -/
inductive ExchangeFault
  /-- There is no such request. -/
  | unbuildable
  /-- Nothing can be sent to the address. -/
  | unsendable (url : Url)
  /-- There is no answer. -/
  | unanswered (url : Url)
  /-- The body of the answer cannot be read. -/
  | unreadable
  deriving DecidableEq, Repr

/-- The wording of a fault. -/
def ExchangeFault.message : ExchangeFault → String
  | .unbuildable => "builder error"
  | .unsendable url => "builder error for url (" ++ url.text ++ ")"
  | .unanswered url => "error sending request for url (" ++ url.text ++ ")"
  | .unreadable => "error decoding response body"

/-- The name of the header with the credentials. -/
def authorization : String := "authorization"

/-- The name of the header with the kind of the body. -/
def contentType : String := "content-type"

/-- The kind of a body that is a document. -/
def jsonType : String := "application/json"

/-- What a part of a user's name or password stands for, if it is text. -/
def decodedText? (s : String) : Option String :=
  (textOf? (Url.percentDecode s.toList)).map String.ofList

/-- The user's name and password in an address, if there are any. A password that is
    no text counts as none, and if the name is no text there is no user. -/
def userOf? (url : Url) : Option (String × Option String) := do
  let name ← decodedText? url.username
  let password := if url.password = "" then none else decodedText? url.password
  if name = "" && password.isNone then none else some (name, password)

/-- The header for a user. -/
def userHeader (name : String) (password : Option String) : String × String :=
  let credentials := (name ++ ":" ++ password.getD "").toUTF8.toList
  (authorization, "Basic " ++ String.ofList (base64 credentials))

/-- An address as requests go to it, and the headers for its user. -/
def splitUser (url : Url) : Url × List (String × String) :=
  match userOf? url with
  | none => (url, [])
  | some (name, password) => (url.withoutUser, [userHeader name password])

/-- The headers `own`, and those of `defaults` whose names are not among them. -/
def withDefaults (own : List (String × String)) (defaults : HeaderMap) :
    List (String × String) :=
  own ++ defaults.filter fun (name, _) => !own.any fun (n, _) => n == name

/-- The name of the header with the length of the body. -/
def contentLength : String := "content-length"

/-- The number that a text of digits stands for. -/
def plainNumber? (cs : List Char) : Option Nat :=
  if cs.all Char.isDigit then (readNat maxWord cs).toOption else none

/-- The length in the value of a header: a number, which may be given more than once.
    What is no such number says nothing. -/
def lengthOf? (value : String) : Option Nat :=
  let parts := (split ',' value.toList).map (trimBy fun c => c == ' ' || c == '\t')
  match parts.mapM plainNumber? with
  | some (n :: others) => if others.all (· == n) then some n else none
  | _ => none

/-- As many bytes of a text as are given. Of a character that is cut, it is not known
    which one it was. -/
def firstBytes : Nat → List Char → List Char
  | 0, _ => []
  | _, [] => []
  | n, c :: cs =>
    if c.utf8Size ≤ n then c :: firstBytes (n - c.utf8Size) cs else ['\uFFFD']

/-- What is sent of a body under some headers: all of it, or as much as a header says.
    A body that is shorter than that cannot be sent. -/
def sentBody? (headers : List (String × String)) (body : String) : Option String :=
  match (headers.lookup contentLength).bind lengthOf? with
  | none => some body
  | some n =>
    if body.utf8ByteSize < n then none else some (String.ofList (firstBytes n body.toList))

/-- The longest address that can be sent to. -/
def longestAddress : Nat := 65534

/-- Whether an address can be sent to: it is one of the web, its host has no characters
    that only look like a part of it, and it is not too long. -/
def isSendable (url : Url) : Bool :=
  (url.scheme == "http" || url.scheme == "https") &&
    (match url.host with
      | some h => !h.text.toList.any ("\"\x60\x7b\x7d".contains ·)
      | none => false) &&
    url.text.length ≤ longestAddress

/-- The request to an address, with headers of its own and default ones. -/
def Request.make (method : Method) (url : Url) (own : List (String × String))
    (defaults : HeaderMap) (body : String) : Except ExchangeFault Request :=
  if !url.hasHost then
    .error (.unsendable url)
  else if !own.all fun (_, value) => isHeaderValue value then
    .error .unbuildable
  else
    let (target, user) := splitUser url
    if !isSendable target then
      .error (.unsendable target)
    else
      let headers := withDefaults (user ++ own) defaults
      match sentBody? headers body with
      | none => .error (.unanswered target)
      | some body => .ok ⟨method, target, headers, body⟩

/-- The request to an address that is given as a text. -/
def Request.ofText (method : Method) (address : String) (own : List (String × String))
    (body : String) : Except ExchangeFault Request :=
  match Url.parse address with
  | .error _ => .error .unbuildable
  | .ok url => Request.make method url own [] body

end SyntheticLoad.Http

import SyntheticLoad.Delivery.Sender
import SyntheticLoad.Delivery.Target
import SyntheticLoad.Http.Network

/-!
# Delivery over the web

An envelope is posted to the address of a target, with the headers of the target.
The address and the headers are looked at once, before anything is sent
(`Endpoint.ofTarget`): first the address, then the token, then the further headers
in their order. Any answer is an outcome, and a missing one is, too.
-/

namespace SyntheticLoad.Http

open Text

/-- What is wrong with a target. -/
inductive TargetError
  | badAddress (address : String) (reason : UrlError)
  | badHeader (name : String) (reason : HeaderFault)
  deriving DecidableEq, Repr

/-- The wording of a target's fault. -/
def TargetError.message : TargetError → String
  | .badAddress address reason =>
    "Invalid endpoint '" ++ address ++ "': " ++ reason.message
  | .badHeader name reason => "Invalid header '" ++ name ++ "': " ++ reason.message

/-- An address that has been read, or its fault. -/
def readAddress (address : String) : Except TargetError Url :=
  (Url.parse address).mapError (.badAddress address)

/-- Where envelopes are posted. -/
structure Endpoint where
  url : Url
  /-- The headers of every request. -/
  headers : HeaderMap
  /-- Whether the bodies of answers are read and reported. -/
  captureBody : Bool
  deriving Repr

/-- Sets a header, if it may be sent. -/
def setHeader (m : HeaderMap) (name value : String) : Except TargetError HeaderMap :=
  (m.set name value).mapError (.badHeader name)

/-- The headers of a target. The kind of the body and the token come first, so that
    the further headers replace them. -/
def targetHeaders (t : Target) : Except TargetError HeaderMap := do
  let start : HeaderMap := [(contentType, jsonType)]
  let withToken ← match t.authToken with
    | none => pure start
    | some token => setHeader start authorization token
  t.headers.foldlM (fun m (name, value) => setHeader m name value) withToken

namespace Endpoint

/-- The endpoint of a target. -/
def ofTarget (t : Target) : Except TargetError Endpoint := do
  let url ← readAddress t.endpoint
  let headers ← targetHeaders t
  pure ⟨url, headers, t.captureBody⟩

/-- The notice of an endpoint that is ready. -/
def readyNotice (e : Endpoint) : Notice :=
  ⟨.debug, "HTTP dispatcher targeting " ++ e.url.text⟩

/-- The request for an envelope. -/
def request (e : Endpoint) (envelope : Envelope) : Except ExchangeFault Request :=
  Request.make .post e.url [] e.headers envelope.body

/-- What is reported of an answer. -/
def answerNotices (e : Endpoint) (r : Response) : List Notice :=
  if e.captureBody then
    let status := "Response status: " ++ numeral r.status.toNat
    match r.text with
    | .ok body => [⟨.info, status ++ " body: " ++ body⟩]
    | .error fault => [⟨.debug, status ++ " (body unreadable: " ++ fault.message ++ ")"⟩]
  else
    []

/-- The outcome of an exchange, and what is reported of it. -/
def conclude (e : Endpoint) : Except ExchangeFault Response → Outcome × List Notice
  | .error fault => (.error fault.message, [])
  | .ok response => (.status response.status, e.answerNotices response)

/-- Posts an envelope. -/
def post (e : Endpoint) (envelope : Envelope) : Exchange (Outcome × List Notice) :=
  .ofRequest (e.request envelope) e.conclude

/-- An endpoint as a sender. Its calls take no time. -/
def sender {ν : Type} (e : Endpoint) (network : Network ν) : Sender ν where
  send _ envelope state :=
    let ((outcome, notices), state) := (e.post envelope).run network state
    (⟨.none, .answered outcome, notices⟩, state)
  settle := id

end Endpoint

end SyntheticLoad.Http

import SyntheticLoad.Http.Request

/-!
# Networks

A network takes a request and gives an answer, or none. It has a state, so that what
it answers may hang on all requests before. Nothing else is known about it: servers
may be slow, wrong or not there, and the body of an answer may break off.

Whatever is done over a network is done in exchanges of at most one request
(`Exchange`). An exchange says what it asks, and what comes of each answer; it is
the same whether a network of this library answers or a real one.
-/

namespace SyntheticLoad.Http

/-- An answer. -/
structure Response where
  status : UInt16
  /-- The bytes of the body, unless it breaks off. -/
  body : Option (List UInt8)
  deriving DecidableEq, Repr

/-- The body of an answer, or why there is none. -/
def Response.bytes (r : Response) : Except ExchangeFault (List UInt8) :=
  match r.body with
  | none => .error .unreadable
  | some body => .ok body

/-- The body of an answer as text, or why there is none. Any bytes will do. -/
def Response.text (r : Response) : Except ExchangeFault String := r.bytes.map Text.lossyText

/-- What takes at most one request, and comes to an `α`. -/
inductive Exchange (α : Type)
  /-- Nothing is asked. -/
  | nothing (result : α)
  /-- A request is sent, and its answer, or the fault, decides. -/
  | ask (request : Request) (conclude : Except ExchangeFault Response → α)

namespace Exchange

/-- An exchange for a request that may be impossible to make. -/
def ofRequest {α : Type} (request : Except ExchangeFault Request)
    (conclude : Except ExchangeFault Response → α) : Exchange α :=
  match request with
  | .error fault => .nothing (conclude (.error fault))
  | .ok request => .ask request conclude

/-- An exchange with something made of its result. -/
def map {α β : Type} (f : α → β) : Exchange α → Exchange β
  | nothing a => .nothing (f a)
  | ask request conclude => .ask request fun answer => f (conclude answer)

/-- What comes of an exchange, given the answer of a network. -/
def settle {α : Type} (request : Request) (conclude : Except ExchangeFault Response → α) :
    Option Response → α
  | none => conclude (.error (.unanswered request.url))
  | some response => conclude (.ok response)

end Exchange

/-- What requests are sent to, with states of type `ν`. -/
structure Network (ν : Type) where
  /-- The answer to a request, if there is one. -/
  answer : Request → ν → Option Response × ν

/-- Makes an exchange over a network. -/
def Exchange.run {ν α : Type} (network : Network ν) (state : ν) : Exchange α → α × ν
  | nothing a => (a, state)
  | ask request conclude =>
    let (response, state) := network.answer request state
    (settle request conclude response, state)

end SyntheticLoad.Http

import SyntheticLoad.Http.Delivery
import SyntheticLoad.Session.LoginReply

/-!
# Sessions

A session is with one service, and it holds the token of its last successful login.
An account is registered and a user is logged in by posting a document; any status
but 200 is a refusal. Everything else is asked for with the token, if there is one.

Each step comes in two halves, the request that it makes and what it concludes from
the answer, so the only thing that a step learns of the world is one answer.
-/

namespace SyntheticLoad

open Http Text

/-- A session with a service. -/
structure Session where
  /-- The address of the service, without slashes at its end. -/
  base : String
  /-- The token of the last successful login. -/
  token : Option String
  deriving DecidableEq, Repr

/-- The steps that can be refused. -/
inductive SessionStep
  | register
  | login
  deriving DecidableEq, Repr

/-- The name of a step. -/
def SessionStep.name : SessionStep → String
  | register => "register"
  | login => "login"

/-- Why a step fails. -/
inductive SessionError
  /-- There is no answer, or none that can be read. -/
  | transport (step : SessionStep) (fault : ExchangeFault)
  /-- The service refuses. -/
  | rejected (step : SessionStep) (status : UInt16) (body : String)
  /-- The answer has no token. -/
  | missingToken
  deriving DecidableEq, Repr

/-- The wording of a failure. -/
def SessionError.message : SessionError → String
  | .transport step fault => step.name ++ " request failed: " ++ fault.message
  | .rejected step status body =>
    step.name ++ " failed with status " ++ numeral status.toNat ++ ": " ++ body
  | .missingToken => "login response did not contain a token"

namespace Session

/-- The path that accounts are registered at. -/
def registerPath : String := "/auth/register/"

/-- The path that users are logged in at. -/
def loginPath : String := "/auth/login/"

/-- A session without a token, if the address is one. -/
def connect (address : String) : Except TargetError Session := do
  let _ ← readAddress address
  pure ⟨String.ofList (trimRight (· == '/') address.toList), none⟩

/-- The address of a path of the service. -/
def address (s : Session) (path : String) : String :=
  s.base ++ "/" ++ String.ofList (trimLeft (· == '/') path.toList)

/-- The request that posts a document. -/
def postRequest (s : Session) (path : String) (document : Json) :
    Except ExchangeFault Request :=
  Request.ofText .post (s.address path) [(contentType, jsonType)] document.toText

/-- The document that registers an account. -/
def registerDocument (username password email : String) : Json :=
  .object [("username", .text username), ("password", .text password), ("email", .text email)]

/-- The document that logs a user in. -/
def loginDocument (username password : String) : Json :=
  .object [("username", .text username), ("password", .text password)]

/-- The request that registers an account. -/
def registerRequest (s : Session) (username password email : String) :
    Except ExchangeFault Request :=
  s.postRequest registerPath (registerDocument username password email)

/-- The request that logs a user in. -/
def loginRequest (s : Session) (username password : String) : Except ExchangeFault Request :=
  s.postRequest loginPath (loginDocument username password)

/-- The header with the token, if there is one. -/
def tokenHeader (s : Session) : List (String × String) :=
  match s.token with
  | none => []
  | some token => [(authorization, "Bearer " ++ token)]

/-- The request for a path. -/
def getRequest (s : Session) (path : String) : Except ExchangeFault Request :=
  Request.ofText .get (s.address path) s.tokenHeader ""

/-- The answer to a step, unless there is none or it is a refusal. -/
def accepted (step : SessionStep) : Except ExchangeFault Response → Except SessionError Response
  | .error fault => .error (.transport step fault)
  | .ok response =>
    if response.status = 200 then
      .ok response
    else
      .error (.rejected step response.status (response.text.toOption.getD ""))

/-- What becomes of a registration. -/
def concludeRegister (answer : Except ExchangeFault Response) : Except SessionError Unit :=
  (accepted .register answer).map fun _ => ()

/-- What becomes of a login by the token in its reply. -/
def grantedToken : Option (Option String) → Except SessionError String
  | none => .error (.transport .login .unreadable)
  | some none => .error .missingToken
  | some (some token) => .ok token

/-- The token that a login gives. -/
def concludeLogin (answer : Except ExchangeFault Response) : Except SessionError String := do
  let response ← accepted .login answer
  let body ← response.bytes.mapError (.transport .login)
  grantedToken (replyToken? body)

/-- The outcome of asking for a path. -/
def concludeGet : Except ExchangeFault Response → Outcome
  | .error fault => .error fault.message
  | .ok response => .status response.status

/-- The notice of a registration. -/
def registeredNotice (username : String) : Notice := ⟨.debug, "Registered user: " ++ username⟩

/-- The notice of a login. -/
def loggedInNotice (username : String) : Notice := ⟨.debug, "Logged in user: " ++ username⟩

/-- Registers an account. -/
def register (s : Session) (username password email : String) :
    Exchange (Except SessionError Unit) :=
  .ofRequest (s.registerRequest username password email) concludeRegister

/-- The session after a login. A login that fails leaves it as it was. -/
def afterLogin (s : Session) (answer : Except ExchangeFault Response) :
    Except SessionError Unit × Session :=
  match concludeLogin answer with
  | .error e => (.error e, s)
  | .ok token => (.ok (), { s with token := some token })

/-- Logs a user in. -/
def login (s : Session) (username password : String) :
    Exchange (Except SessionError Unit × Session) :=
  .ofRequest (s.loginRequest username password) s.afterLogin

/-- Asks for a path. -/
def get (s : Session) (path : String) : Exchange Outcome :=
  .ofRequest (s.getRequest path) concludeGet

end Session

end SyntheticLoad

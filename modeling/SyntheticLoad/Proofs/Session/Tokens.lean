import Mathlib
import SyntheticLoad.Proofs.Http.Asking
import SyntheticLoad.Proofs.Session.LoginReply
import SyntheticLoad.Proofs.Session.Requests

/-!
# The token of a session

A session with a service is used by one call after another (`Dialogue.step`), and of each call it
is noted what is asked, what comes back and what the caller is told (`Entry`). Whatever the
service answers, the session shows the token of the last login that succeeded, and no other
(`LastToken`): a login that succeeds sets it (`Grants`), and one that fails in any of its ways
(`Refuses`) leaves the session as it was, like all other calls (`Affects`). Which of the two it
is hangs on the document in the body of the answer (`Decides`).
-/

namespace SyntheticLoad.Session

open Http Json Text

/-! ### Calls -/

/-- A call of a session. -/
inductive Call
  | register (username password email : String)
  | login (username password : String)
  | get (path : String)
  deriving DecidableEq, Repr

namespace Call

/-- How a call is asked. -/
def method : Call → Method
  | register .. => .post
  | login .. => .post
  | get _ => .get

/-- The path that is asked for. -/
def path : Call → String
  | register .. => registerPath
  | login .. => loginPath
  | get path => path

/-- The headers of a call in a session with the token, if there is one. -/
def headers (token : Option String) : Call → List (String × String)
  | register .. => [(contentType, jsonType)]
  | login .. => [(contentType, jsonType)]
  | get _ =>
    match token with
    | none => []
    | some token => [(authorization, "Bearer " ++ token)]

/-- The body of a call. -/
def body : Call → String
  | register username password email => (registerDocument username password email).toText
  | login username password => (loginDocument username password).toText
  | get _ => ""

end Call

/-- What a caller is told. -/
inductive Result
  | registered (result : Except SessionError Unit)
  | loggedIn (result : Except SessionError Unit)
  | got (outcome : Outcome)

/-- Makes a call. -/
def perform (s : Session) : Call → Exchange (Result × Session)
  | .register username password email =>
    (s.register username password email).map fun result => (.registered result, s)
  | .login username password =>
    (s.login username password).map fun (result, after) => (.loggedIn result, after)
  | .get path => (s.get path).map fun outcome => (.got outcome, s)

/-- The request of a call. -/
def requestOf (s : Session) : Call → Except ExchangeFault Request
  | .register username password email => s.registerRequest username password email
  | .login username password => s.loginRequest username password
  | .get path => s.getRequest path

/-- What is noted of a call. -/
structure Entry where
  call : Call
  /-- The request, if there is one. -/
  request : Except ExchangeFault Request
  answer : Except ExchangeFault Response
  result : Result

/-- A session with a service, and what has been noted of it. -/
structure Dialogue (ν : Type) where
  session : Session
  /-- The network with the service. -/
  state : ν
  entries : List Entry

/-- Makes one more call. -/
def Dialogue.step {ν : Type} (network : Network ν) (d : Dialogue ν) (call : Call) : Dialogue ν :=
  let request := d.session.requestOf call
  let ((result, session), state) := (d.session.perform call).run network d.state
  ⟨session, state, d.entries ++ [⟨call, request, (network.ask d.state request).1, result⟩]⟩

/-- Makes calls, one after another. -/
def Dialogue.run {ν : Type} (network : Network ν) (d : Dialogue ν) (calls : List Call) :
    Dialogue ν := calls.foldl (Dialogue.step network) d

/-! ### Logins -/

/-- The answer to a login gives a token. -/
inductive Grants : Except ExchangeFault Response → String → Prop
  | token {body : List UInt8} {token : String} (htoken : replyToken? body = some (some token)) :
    Grants (.ok ⟨200, some body⟩) token

/-- The answer to a login, or that there is none, makes it fail. -/
inductive Refuses : Except ExchangeFault Response → SessionError → Prop
  | unanswered (fault : ExchangeFault) : Refuses (.error fault) (.transport .login fault)
  | rejected {response : Response} (hstatus : response.status ≠ 200) :
    Refuses (.ok response)
      (.rejected .login response.status (response.text.toOption.getD ""))
  | brokenOff : Refuses (.ok ⟨200, none⟩) (.transport .login .unreadable)
  | undecodable {body : List UInt8} (hbody : replyToken? body = none) :
    Refuses (.ok ⟨200, some body⟩) (.transport .login .unreadable)
  | tokenless {body : List UInt8} (hbody : replyToken? body = some none) :
    Refuses (.ok ⟨200, some body⟩) .missingToken

/-- A login comes to the token that the answer gives, or fails in one of its ways. -/
theorem concludeLogin_cases (answer : Except ExchangeFault Response) :
    (∃ token, concludeLogin answer = .ok token ∧ Grants answer token) ∨
      ∃ e, concludeLogin answer = .error e ∧ Refuses answer e := by
  rcases answer with fault | response
  · exact .inr ⟨_, rfl, .unanswered fault⟩
  by_cases hstatus : response.status = 200
  · obtain ⟨status, body⟩ := response
    obtain rfl : status = 200 := hstatus
    cases body with
    | none => exact .inr ⟨_, rfl, .brokenOff⟩
    | some body =>
      have hlogin : concludeLogin (.ok ⟨200, some body⟩) = grantedToken (replyToken? body) := rfl
      rw [hlogin]
      cases hbody : replyToken? body with
      | none => exact .inr ⟨_, rfl, .undecodable hbody⟩
      | some token? =>
        cases token? with
        | none => exact .inr ⟨_, rfl, .tokenless hbody⟩
        | some token => exact .inl ⟨token, rfl, .token hbody⟩
  · refine .inr ⟨_, ?_, .rejected hstatus⟩
    rw [concludeLogin, accepted, if_neg hstatus]
    rfl

/-- What an answer makes of a login, if its body is the text of a document. -/
structure Decides (j : Json) (answer : Except ExchangeFault Response) : Prop where
  grants_iff : ∀ token, Grants answer token ↔ documentToken? j = some (some token)
  missing_iff : Refuses answer .missingToken ↔ documentToken? j = some none
  unreadable_iff : Refuses answer (.transport .login .unreadable) ↔ documentToken? j = none

theorem decides_of_document {j : Json} {s : String} (h : Document j s.toList) :
    Decides j (.ok ⟨200, some (utf8 s)⟩) := by
  have htoken := replyToken?_utf8 h
  refine ⟨fun token => ⟨?_, ?_⟩, ⟨?_, ?_⟩, ⟨?_, ?_⟩⟩
  · rintro ⟨hbody⟩
    exact htoken ▸ hbody
  · exact fun hj => .token (htoken.trans hj)
  · intro hrefuses
    cases hrefuses with
    | tokenless hbody => exact htoken ▸ hbody
  · exact fun hj => .tokenless (htoken.trans hj)
  · intro hrefuses
    cases hrefuses with
    | undecodable hbody => exact htoken ▸ hbody
  · exact fun hj => .undecodable (htoken.trans hj)

/-- With any other status, an answer of text makes a login fail with this text. -/
theorem refuses_text_iff {status : UInt16} (hstatus : status ≠ 200) (s : String)
    (e : SessionError) :
    Refuses (.ok ⟨status, some (utf8 s)⟩) e ↔ e = .rejected .login status s := by
  have htext : (Response.text ⟨status, some (utf8 s)⟩).toOption.getD "" = s := lossyText_utf8 s
  constructor
  · intro h
    cases h with
    | rejected => rw [htext]
    | _ => exact absurd rfl hstatus
  · rintro rfl
    have hrefuses : Refuses (.ok ⟨status, some (utf8 s)⟩) (.rejected .login status
        ((Response.text ⟨status, some (utf8 s)⟩).toOption.getD "")) := .rejected hstatus
    rwa [htext] at hrefuses

/-! ### Turns -/

/-- What a call comes to in a session, and the session after it. -/
inductive Affects (s : Session) (answer : Except ExchangeFault Response) :
    Call → Result → Session → Prop
  | register (username password email : String) :
    Affects s answer (.register username password email) (.registered (concludeRegister answer)) s
  | login (username password : String) {token : String} (hgrants : Grants answer token) :
    Affects s answer (.login username password) (.loggedIn (.ok ())) { s with token := some token }
  | failedLogin (username password : String) {e : SessionError} (hrefuses : Refuses answer e) :
    Affects s answer (.login username password) (.loggedIn (.error e)) s
  | get (path : String) : Affects s answer (.get path) (.got (concludeGet answer)) s

/-- The request of a call to the service at an address, in a session with the token, if there
    is one. -/
structure Asks (address : String) (token : Option String) (call : Call) (request : Request) :
    Prop where
  method_eq : request.method = call.method
  /-- The path is put behind the address, with one slash in between. -/
  url_eq : Url.parse (String.ofList (trimRight (· == '/') address.toList ++
    '/' :: trimLeft (· == '/') call.path.toList)) = .ok request.url
  headers_eq : request.headers = call.headers token
  body_eq : request.body = call.body
  hasHost : request.url.hasHost = true
  isSendable : isSendable request.url = true
  values : ∀ h ∈ request.headers, isHeaderValue h.2 = true

/-- A call of a dialogue with the service at an address, and what is noted of it. -/
structure Turn {ν : Type} (network : Network ν) (address : String) (d : Dialogue ν) (call : Call)
    (e : Entry) (after : Dialogue ν) : Prop where
  entries_eq : after.entries = d.entries ++ [e]
  call_eq : e.call = call
  /-- There is a request if there can be one, and it shows the token of the session. -/
  request_iff : ∀ request, e.request = .ok request ↔ Asks address d.session.token call request
  /-- The network gets the request, if there is one, and nothing else. -/
  heard : (e.answer, after.state) = network.ask d.state e.request
  affects : Affects d.session e.answer call e.result after.session
  /-- Nothing is sent if the token cannot be sent. -/
  unsent : ∀ path token, call = .get path → d.session.token = some token →
    isHeaderValue ("Bearer " ++ token) = false →
      after.state = d.state ∧ ∃ message, e.result = .got (.error message)

/-- The token of the last login that succeeded, if one did. -/
inductive LastToken : List Entry → Option String → Prop
  | none {es : List Entry} (hnone : ∀ e ∈ es, e.result ≠ .loggedIn (.ok ())) : LastToken es none
  | some {before after : List Entry} {e : Entry} {token : String}
    (hlogin : e.result = .loggedIn (.ok ())) (hgrants : Grants e.answer token)
    (hnone : ∀ e ∈ after, e.result ≠ .loggedIn (.ok ())) :
    LastToken (before ++ e :: after) (some token)

section

variable {s s' : Session} {answer : Except ExchangeFault Response} {call : Call} {result : Result}

/-- A call that is no successful login leaves the session as it was. -/
theorem Affects.eq_of_ne (h : Affects s answer call result s')
    (hresult : result ≠ .loggedIn (.ok ())) : s' = s := by
  cases h with
  | login username password hgrants => exact absurd rfl hresult
  | register => rfl
  | failedLogin => rfl
  | get => rfl

/-- A successful login sets the token that the answer gives, and nothing else. -/
theorem Affects.exists_token (h : Affects s answer call result s')
    (hresult : result = .loggedIn (.ok ())) :
    ∃ token, Grants answer token ∧ s' = { s with token := some token } := by
  cases h with
  | login username password hgrants => exact ⟨_, hgrants, rfl⟩
  | _ => cases hresult

theorem Affects.base_eq (h : Affects s answer call result s') : s'.base = s.base := by
  cases h <;> rfl

/-- What a call comes to hangs on what comes back for its request. -/
theorem affects_perform {ν : Type} (network : Network ν) (s : Session) (state : ν) (call : Call) :
    ∃ result s', (s.perform call).run network state =
        ((result, s'), (network.ask state (s.requestOf call)).2) ∧
      Affects s (network.ask state (s.requestOf call)).1 call result s' := by
  cases call with
  | register username password email =>
    rw [perform, Exchange.run_map, Session.register, Exchange.run_ofRequest]
    exact ⟨_, _, rfl, .register username password email⟩
  | login username password =>
    rw [perform, Exchange.run_map, Session.login, Exchange.run_ofRequest, requestOf, afterLogin]
    rcases concludeLogin_cases (network.ask state (s.loginRequest username password)).1 with
      ⟨token, htoken, hgrants⟩ | ⟨e, he, hrefuses⟩
    · rw [htoken]
      exact ⟨_, _, rfl, .login username password hgrants⟩
    · rw [he]
      exact ⟨_, _, rfl, .failedLogin username password hrefuses⟩
  | get path =>
    rw [perform, Exchange.run_map, Session.get, Exchange.run_ofRequest]
    exact ⟨_, _, rfl, .get path⟩

end

/-- The last token stays that of the session. -/
theorem LastToken.append {es : List Entry} {e : Entry} {s s' : Session}
    (h : LastToken es s.token) (haffects : Affects s e.answer e.call e.result s') :
    LastToken (es ++ [e]) s'.token := by
  by_cases hresult : e.result = .loggedIn (.ok ())
  · obtain ⟨token, hgrants, rfl⟩ := haffects.exists_token hresult
    exact .some hresult hgrants fun e' he' => absurd he' List.not_mem_nil
  · rw [haffects.eq_of_ne hresult]
    have hlater : ∀ {later : List Entry}, (∀ e' ∈ later, e'.result ≠ .loggedIn (.ok ())) →
        ∀ e' ∈ later ++ [e], e'.result ≠ .loggedIn (.ok ()) := by
      intro later hnone e' he'
      rcases List.mem_append.1 he' with hmem | hmem
      · exact hnone e' hmem
      · exact List.mem_singleton.1 hmem ▸ hresult
    revert h
    generalize s.token = token
    intro h
    cases h with
    | none hnone => exact .none (hlater hnone)
    | some hlogin hgrants hnone =>
      rw [List.append_assoc, List.cons_append]
      exact .some hlogin hgrants (hlater hnone)

/-! ### Requests -/

section

variable {address : String} {s : Session}
  (hbase : s.base = String.ofList (trimRight (· == '/') address.toList)) (hs : s.Anonymous)

include hbase hs

/-- There is a request for a call if there can be one. -/
theorem requestOf_eq_ok_iff (call : Call) (request : Request) :
    s.requestOf call = .ok request ↔ Asks address s.token call request := by
  have hmade : s.requestOf call =
      Request.ofText call.method (s.address call.path) (call.headers s.token) call.body := by
    cases call <;> rfl
  have hlength : (call.headers s.token).lookup contentLength = none := by
    cases call with
    | get path => cases s.token <;> rfl
    | _ => rfl
  rw [hmade, ofText_eq_ok_iff hs hlength, address_eq hbase]
  constructor
  · rintro ⟨url, hurl, hhost, hsendable, hvalues, rfl⟩
    exact ⟨rfl, hurl, rfl, rfl, hhost, hsendable, hvalues⟩
  · rintro ⟨hmethod, hurl, hheaders, hbody, hhost, hsendable, hvalues⟩
    refine ⟨request.url, hurl, hhost, hsendable, hheaders ▸ hvalues, ?_⟩
    rw [← hmethod, ← hheaders, ← hbody]

/-- A token that cannot be sent is not sent. -/
theorem requestOf_unsendable (path : String) {token : String} (htoken : s.token = some token)
    (hvalue : isHeaderValue ("Bearer " ++ token) = false) :
    ∃ fault, s.requestOf (.get path) = .error fault := by
  cases hrequest : s.requestOf (.get path) with
  | error fault => exact ⟨fault, rfl⟩
  | ok request =>
    have hasks := (requestOf_eq_ok_iff hbase hs _ _).1 hrequest
    have hvalues := hasks.values (authorization, "Bearer " ++ token) (by
      rw [hasks.headers_eq, htoken]
      exact List.mem_singleton_self _)
    exact absurd hvalues (by rw [hvalue]; decide)

end

/-! ### Dialogues -/

section

variable {ν : Type} (network : Network ν) {address : String} {d : Dialogue ν}

/-- What is noted of a call that comes to a result. -/
theorem Dialogue.step_eq {call : Call} {result : Result} {s' : Session} {state' : ν}
    (hrun : (d.session.perform call).run network d.state = ((result, s'), state')) :
    d.step network call = ⟨s', state', d.entries ++ [⟨call, d.session.requestOf call,
      (network.ask d.state (d.session.requestOf call)).1, result⟩]⟩ := by
  rw [step, hrun]

/-- A call is a turn of the dialogue. -/
theorem Dialogue.exists_turn
    (hbase : d.session.base = String.ofList (trimRight (· == '/') address.toList))
    (hs : d.session.Anonymous) (call : Call) :
    ∃ e, Turn network address d call e (d.step network call) := by
  obtain ⟨result, s', hrun, haffects⟩ := affects_perform network d.session d.state call
  rw [step_eq network hrun]
  refine ⟨_, {
    entries_eq := rfl
    call_eq := rfl
    request_iff := requestOf_eq_ok_iff hbase hs call
    heard := rfl
    affects := haffects
    unsent := ?_ }⟩
  rintro path token rfl htoken hvalue
  obtain ⟨fault, hfault⟩ := requestOf_unsendable hbase hs path htoken hvalue
  rw [hfault] at haffects ⊢
  cases haffects
  exact ⟨rfl, fault.message, rfl⟩

/-- The requests that are noted. -/
def Dialogue.requests (d : Dialogue ν) : List Request :=
  d.entries.filterMap fun e => e.request.toOption

/-- A dialogue over a network that keeps a log. -/
def Dialogue.withLog (d : Dialogue ν) (log : List Request) : Dialogue (ν × List Request) :=
  ⟨d.session, (d.state, log), d.entries⟩

theorem Dialogue.requests_note (e : Entry) (session : Session) (state : ν) :
    (Dialogue.mk session state (d.entries ++ [e])).requests =
      d.requests ++ e.request.toOption.toList := by
  obtain ⟨call, request, answer, result⟩ := e
  rw [requests, List.filterMap_append]
  cases request <;> rfl

/-- A log is kept of the request of a call, if there is one. -/
theorem Dialogue.step_logged (call : Call) :
    (d.withLog d.requests).step network.logged call =
      (d.step network call).withLog (d.step network call).requests := by
  obtain ⟨result, s', hrun, -⟩ := affects_perform network d.session d.state call
  obtain ⟨result', s'', hrun', -⟩ :=
    affects_perform network.logged d.session (d.state, d.requests) call
  -- The log makes no difference to what the caller is told and to the session.
  have hsame := Exchange.run_logged network d.state (d.session.perform call) d.requests
  rw [hrun, hrun', Prod.mk.injEq] at hsame
  obtain ⟨rfl, rfl⟩ := hsame
  rw [step_eq network hrun, step_eq network.logged (d := d.withLog d.requests) hrun']
  simp only [withLog, Network.ask_logged, requests_note]

theorem Dialogue.run_logged (calls : List Call) :
    (d.withLog d.requests).run network.logged calls =
      (d.run network calls).withLog (d.run network calls).requests := by
  induction calls generalizing d with
  | nil => rfl
  | cons call calls ih =>
    rw [run, List.foldl_cons, step_logged network]
    exact ih

/-- What calls keep to. -/
structure Dialogue.Sound (address : String) (calls : List Call) (d : Dialogue ν) : Prop where
  base_eq : d.session.base = String.ofList (trimRight (· == '/') address.toList)
  anonymous : d.session.Anonymous
  calls_eq : d.entries.map Entry.call = calls
  lastToken : LastToken d.entries d.session.token

theorem Dialogue.Sound.step {calls : List Call} (h : d.Sound address calls) (call : Call) :
    (d.step network call).Sound address (calls ++ [call]) := by
  obtain ⟨e, hturn⟩ := exists_turn network h.base_eq h.anonymous call
  have hbase := hturn.affects.base_eq
  exact {
    base_eq := hbase.trans h.base_eq
    anonymous := h.anonymous.congr hbase
    calls_eq := by
      rw [hturn.entries_eq, List.map_append, h.calls_eq, List.map_singleton, hturn.call_eq]
    lastToken := by
      rw [hturn.entries_eq]
      exact h.lastToken.append (hturn.call_eq ▸ hturn.affects) }

theorem Dialogue.Sound.run {made : List Call} (h : d.Sound address made) (calls : List Call) :
    (d.run network calls).Sound address (made ++ calls) := by
  induction calls generalizing d made with
  | nil => rwa [List.append_nil]
  | cons call calls ih =>
    rw [List.append_cons]
    exact ih (h.step network call)

end

/-- **A session keeps the token of its last login.** Make any calls in a session with a service
    at an address of the web that names no user, over a network that answers whatever it likes
    or nothing. Then

    * the token is that of the last login that succeeded, if one did;
    * the network gets the requests that are noted, in their order;
    * any further call is a turn: its request goes to the address with its path, with the token
      if there is one and it is asked for a path, and only a login that succeeds changes the
      session;
    * whether an answer with the text of a document lets a login succeed, and with which token,
      hangs on the document; a body that is no object and no array, with blanks around it, gives
      none, and with another status than 200 an answer makes a login fail with its text. -/
theorem session_keeps_last_token {ν : Type} (network : Network ν) (state : ν) {address : String}
    {url : Url} (hurl : Url.parse address = .ok url) (hscheme : url.scheme = "http")
    (hname : url.username = "") (hpassword : url.password = "") (calls : List Call) :
    ∃ start d, connect address = .ok start ∧ start.token = none ∧
      Dialogue.run network ⟨start, state, []⟩ calls = d ∧
      d.entries.map Entry.call = calls ∧
      LastToken d.entries d.session.token ∧
      (Dialogue.run network.logged ⟨start, (state, []), []⟩ calls).state =
        (d.state, d.entries.filterMap fun e => e.request.toOption) ∧
      (∀ call, ∃ e, Turn network address d call e (d.step network call)) ∧
      (∀ (j : Json) (s : String), Document j s.toList → Decides j (.ok ⟨200, some (utf8 s)⟩)) ∧
      (∀ body token, Grants (.ok ⟨200, some body⟩) token →
        Enclosed '\x7b' '\x7d' (body.map byteChar) ∨ Enclosed '[' ']' (body.map byteChar)) ∧
      ∀ status s e, status ≠ 200 →
        (Refuses (.ok ⟨status, some (utf8 s)⟩) e ↔ e = .rejected .login status s) := by
  have hspecial : SchemeKind.ofScheme url.scheme = .special := by
    rw [hscheme]
    rfl
  obtain ⟨start, hstart, hbase, htoken⟩ : ∃ start : Session, connect address = .ok start ∧
      start.base = String.ofList (trimRight (· == '/') address.toList) ∧ start.token = none :=
    ⟨_, connect_of_parse hurl, rfl, rfl⟩
  have hsound : Dialogue.Sound address [] (⟨start, state, []⟩ : Dialogue ν) := {
    base_eq := hbase
    anonymous := anonymous_of_parse hbase hurl hspecial hname hpassword
    calls_eq := rfl
    lastToken := htoken ▸ .none fun e he => absurd he List.not_mem_nil }
  have hend : Dialogue.Sound address calls (Dialogue.run network ⟨start, state, []⟩ calls) :=
    hsound.run network calls
  refine ⟨start, _, hstart, htoken, rfl, hend.calls_eq, hend.lastToken, ?_,
    Dialogue.exists_turn network hend.base_eq hend.anonymous, fun _ _ => decides_of_document,
    ?_, fun status s e hstatus => refuses_text_iff hstatus s e⟩
  · have hlogged : Dialogue.run network.logged ⟨start, (state, []), []⟩ calls = _ :=
      Dialogue.run_logged network (d := ⟨start, state, []⟩) calls
    rw [hlogged]
    rfl
  · rintro body token ⟨hbody⟩
    exact enclosed_of_replyToken? hbody

/-- A network with some answers, the first of which is the next. -/
def answersInTurn : Network (List Response) where
  answer _ answers := (answers.head?, answers.tail)

set_option maxRecDepth 8000 in
/-- The machine itself answers two logins, the first with the body `["t"]` and the second with a
    refusal. Whatever is asked for then is asked for with the token of the first. -/
theorem session_keeps_last_token_loopback :
    ∃ start d, connect "http://[::1]:8080/" = .ok start ∧
      Dialogue.run answersInTurn ⟨start, [⟨200, some [91, 34, 116, 34, 93]⟩, ⟨503, none⟩], []⟩
        [.login "ann" "pw", .login "ann" "pw"] = d ∧
      d.session.token = some "t" ∧ LastToken d.entries d.session.token ∧
      ∀ path, ∃ e, (d.step answersInTurn (.get path)).entries = d.entries ++ [e] ∧
        ∀ request, e.request = .ok request → request.headers = [("authorization", "Bearer t")] := by
  have hurl : Url.parse "http://[::1]:8080/" =
      .ok ⟨"http", "", "", some (.ipv6 [0, 0, 0, 0, 0, 0, 0, 1]), some 8080, .segments [""], none,
        none⟩ := by cbv
  obtain ⟨start, d, hstart, -, hd, -, hlast, -, hturn, -⟩ :=
    session_keeps_last_token answersInTurn [⟨200, some [91, 34, 116, 34, 93]⟩, ⟨503, none⟩] hurl
      rfl rfl rfl [.login "ann" "pw", .login "ann" "pw"]
  -- A login is asked for whatever the token is, and comes to what the next answer makes of it.
  have hlogin (s : Session) (answer : Response) (answers : List Response)
      (hbase : s.base = String.ofList (trimRight (· == '/') "http://[::1]:8080/".toList)) :
      (s.perform (.login "ann" "pw")).run answersInTurn (answer :: answers) =
        (((.loggedIn (s.afterLogin (.ok answer)).1), (s.afterLogin (.ok answer)).2), answers) := by
    have hrequest : s.loginRequest "ann" "pw" = .ok ⟨.post, ⟨"http", "", "",
        some (.ipv6 [0, 0, 0, 0, 0, 0, 0, 1]), some 8080, .segments ["auth", "login", ""], none,
        none⟩, [(contentType, jsonType)], (loginDocument "ann" "pw").toText⟩ := by
      refine (requestOf_eq_ok_iff hbase (anonymous_of_parse hbase hurl rfl rfl rfl)
        (.login "ann" "pw") _).2 ?_
      exact ⟨rfl, by cbv, rfl, rfl, by cbv, by cbv, by decide⟩
    rw [perform, Exchange.run_map, Session.login, Exchange.run_ofRequest, hrequest]
    rfl
  have htoken : d.session.token = some "t" := by
    rw [connect_of_parse hurl] at hstart
    cases hstart
    rw [← hd, Dialogue.run, List.foldl_cons, Dialogue.step_eq _ (hlogin _ _ _ rfl),
      List.foldl_cons, Dialogue.step_eq _ (hlogin _ _ _ rfl)]
    rfl
  refine ⟨start, d, hstart, hd, htoken, hlast, fun path => ?_⟩
  obtain ⟨e, he⟩ := hturn (.get path)
  refine ⟨e, he.entries_eq, fun request hrequest => ?_⟩
  rw [((he.request_iff request).1 hrequest).headers_eq, htoken]
  rfl

end SyntheticLoad.Session

import SyntheticLoad.Proofs.Http.Request
import SyntheticLoad.Proofs.Url.Join
import SyntheticLoad.Session.Client

/-!
# The requests of a session

At a service whose address names no user, a request has the headers that the session gives it
and no others: the kind of the document where one is posted, and the token, if there is one,
where a path is asked for (`headers_getRequest`, `headers_postRequest`). Whether a document
can be posted hangs on its address only, and not on the document (`isSome_postRequest`).
-/

namespace SyntheticLoad

open Http Text

namespace Session

/-- No address of the service names a user. -/
def Anonymous (s : Session) : Prop :=
  ∀ path joined, Url.parse (s.address path) = .ok joined →
    joined.username = "" ∧ joined.password = ""

/-- The address of a path is one to send to. -/
def CanPost (s : Session) (path : String) : Prop :=
  ∃ url, Url.parse (s.address path) = .ok url ∧ url.hasHost = true ∧ isSendable url = true

/-- Another session with the same service is at the same addresses. -/
theorem address_congr {s s' : Session} (hbase : s'.base = s.base) (path : String) :
    s'.address path = s.address path := by
  rw [address, address, hbase]

theorem Anonymous.congr {s s' : Session} (hs : s.Anonymous) (hbase : s'.base = s.base) :
    s'.Anonymous := fun path joined hjoined =>
  hs path joined ((address_congr hbase path).symm ▸ hjoined)

theorem canPost_congr {s s' : Session} (hbase : s'.base = s.base) (path : String) :
    s'.CanPost path ↔ s.CanPost path := by
  rw [CanPost, CanPost, address_congr hbase]

section

variable {address : String} {s : Session}
  (hbase : s.base = String.ofList (trimRight (· == '/') address.toList))

include hbase

theorem address_eq (path : String) : s.address path = String.ofList
    (trimRight (· == '/') address.toList ++ '/' :: trimLeft (· == '/') path.toList) := by
  rw [← String.toList_inj, Session.address, hbase]
  simp only [String.toList_append, String.toList_ofList, List.append_assoc]
  rfl

variable {url : Url} (hurl : Url.parse address = .ok url)
  (hspecial : SchemeKind.ofScheme url.scheme = .special)

include hurl hspecial

/-- A session with a service at an address without a user. -/
theorem anonymous_of_parse (hname : url.username = "") (hpassword : url.password = "") :
    s.Anonymous := by
  intro path joined hjoined
  rw [address_eq hbase] at hjoined
  obtain ⟨hjoinedName, hjoinedPassword⟩ := Url.user_join hurl hspecial hjoined
  exact ⟨hjoinedName.trans hname, hjoinedPassword.trans hpassword⟩

/-- If documents can be sent to the address of a service, they can be posted to all of its paths,
    unless there are blanks behind the address or it is too long with the path. -/
theorem canPost_iff (hsendable : isSendable url = true) (hhost : url.hasHost = true)
    (hblanks : trimRight Url.isOuter address.toList = address.toList) (path : String) :
    ∃ joined, Url.parse (s.address path) = .ok joined ∧
      (s.CanPost path ↔ joined.text.length ≤ longestAddress) := by
  obtain ⟨joined, hjoined, hscheme, hsame⟩ :=
    Url.exists_join hurl hspecial hblanks (trimLeft (· == '/') path.toList)
  rw [← address_eq hbase] at hjoined
  refine ⟨joined, hjoined, fun hpost => ?_, fun hlength => ?_⟩
  · obtain ⟨url', hurl', -, hsendable'⟩ := hpost
    obtain rfl : joined = url' := Except.ok.inj (hjoined.symm.trans hurl')
    rw [isSendable, Bool.and_eq_true, decide_eq_true_iff] at hsendable'
    exact hsendable'.2
  · refine ⟨joined, hjoined, ?_, ?_⟩
    · rwa [Url.hasHost, hsame]
    · rw [isSendable, Bool.and_eq_true, decide_eq_true_iff] at hsendable ⊢
      rw [hscheme, hsame]
      exact ⟨hsendable.1, hlength⟩

end

/-- A session is made with the address of a service, and has no token yet. -/
theorem connect_of_parse {address : String} {url : Url} (hurl : Url.parse address = .ok url) :
    connect address = .ok ⟨String.ofList (trimRight (· == '/') address.toList), none⟩ := by
  rw [connect, readAddress, hurl]
  rfl

section

variable {s : Session} (hs : s.Anonymous)

include hs

/-- There is a request to a path if there is an address to send to, and if its own headers may
    be sent. It has these headers and no others. -/
theorem ofText_eq_ok_iff {method : Method} {path : String} {own : List (String × String)}
    {body : String} {request : Request} (hlength : own.lookup contentLength = none) :
    Request.ofText method (s.address path) own body = .ok request ↔
      ∃ url, Url.parse (s.address path) = .ok url ∧ url.hasHost = true ∧ isSendable url = true ∧
        (∀ h ∈ own, isHeaderValue h.2 = true) ∧ request = ⟨method, url, own, body⟩ := by
  have hheaders : withDefaults ([] ++ own) [] = own := List.append_nil own
  have hdefaults : ([] : HeaderMap).lookup contentLength = none := rfl
  unfold Request.ofText
  cases hurl : Url.parse (s.address path) with
  | error e => simp
  | ok url =>
    obtain ⟨hname, hpassword⟩ := hs path url hurl
    simp only [Request.make_eq_ok_iff hlength hdefaults, splitUser_of_empty hname hpassword,
      hheaders, Except.ok.injEq, exists_eq_left']

/-- A request to a path has its own headers and no others. -/
theorem headers_ofText {method : Method} {path : String} {own : List (String × String)}
    {body : String} {request : Request} (hlength : own.lookup contentLength = none)
    (h : Request.ofText method (s.address path) own body = .ok request) :
    request.headers = own := by
  obtain ⟨url, -, -, -, -, rfl⟩ := (ofText_eq_ok_iff hs hlength).1 h
  rfl

/-- A path is asked for with the token, if there is one, and with no other header. -/
theorem headers_getRequest {path : String} {request : Request}
    (h : s.getRequest path = .ok request) : request.headers = s.tokenHeader := by
  have hlength : s.tokenHeader.lookup contentLength = none := by
    rw [tokenHeader]
    cases s.token <;> rfl
  exact headers_ofText hs hlength h

/-- A document is posted with its kind, and with no other header. -/
theorem headers_postRequest {path : String} {document : Json} {request : Request}
    (h : s.postRequest path document = .ok request) :
    request.headers = [(contentType, jsonType)] :=
  headers_ofText hs rfl h

/-- Any document can be posted to a path that can be posted to, and none to any other path. -/
theorem isSome_postRequest (path : String) (document : Json) :
    (s.postRequest path document).toOption.isSome = true ↔ s.CanPost path := by
  have hvalues : ∀ h ∈ [(contentType, jsonType)], isHeaderValue h.2 = true := by decide
  have hok (request : Request) : s.postRequest path document = .ok request ↔ _ :=
    ofText_eq_ok_iff hs rfl
  constructor
  · intro hsome
    cases hrequest : s.postRequest path document with
    | error fault =>
      rw [hrequest] at hsome
      cases hsome
    | ok request =>
      obtain ⟨url, hurl, hhost, hsendable, -⟩ := (hok request).1 hrequest
      exact ⟨url, hurl, hhost, hsendable⟩
  · rintro ⟨url, hurl, hhost, hsendable⟩
    rw [(hok _).2 ⟨url, hurl, hhost, hsendable, hvalues, rfl⟩]
    rfl

end

end Session

end SyntheticLoad

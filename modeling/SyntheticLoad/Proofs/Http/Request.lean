import SyntheticLoad.Http.Request

/-!
# When there is a request

A request can be made to an address with a host that can be sent to, if its own headers may be
sent, and there are no other conditions as long as no header says how long the body is
(`Request.make_eq_ok_iff`). It goes to the address without its user, with the header for the user,
its own headers and the default ones, and has the whole body.
-/

namespace SyntheticLoad.Http

/-- Without a name and a password there is no user. -/
theorem userOf?_of_empty {url : Url} (hname : url.username = "") (hpassword : url.password = "") :
    userOf? url = none := by
  rw [userOf?, hname, hpassword]
  rfl

theorem splitUser_of_empty {url : Url} (hname : url.username = "") (hpassword : url.password = "") :
    splitUser url = (url, []) := by
  rw [splitUser, userOf?_of_empty hname hpassword]

/-- The header for a user says nothing about the length of a body. -/
theorem lookup_splitUser (url : Url) : (splitUser url).2.lookup contentLength = none := by
  rw [splitUser]
  split <;> rfl

theorem lookup_withDefaults_eq_none {own : List (String × String)} {defaults : HeaderMap}
    {name : String} (hown : own.lookup name = none) (hdefaults : defaults.lookup name = none) :
    (withDefaults own defaults).lookup name = none := by
  rw [withDefaults, List.lookup_append, hown, Option.none_or, List.lookup_eq_none_iff]
  exact fun h hh => List.lookup_eq_none_iff.1 hdefaults h (List.mem_filter.1 hh).1

/-- Unless a header says how long the body is, all of it is sent. -/
theorem sentBody?_of_lookup {headers : List (String × String)}
    (h : headers.lookup contentLength = none) (body : String) :
    sentBody? headers body = some body := by
  rw [sentBody?, h]
  rfl

/-- When there is a request to an address, and which one it is. -/
theorem Request.make_eq_ok_iff {method : Method} {url : Url} {own : List (String × String)}
    {defaults : HeaderMap} {body : String} {request : Request}
    (hown : own.lookup contentLength = none)
    (hdefaults : defaults.lookup contentLength = none) :
    Request.make method url own defaults body = .ok request ↔
      url.hasHost = true ∧ isSendable (splitUser url).1 = true ∧
      (∀ h ∈ own, isHeaderValue h.2 = true) ∧
      request = ⟨method, (splitUser url).1, withDefaults ((splitUser url).2 ++ own) defaults,
        body⟩ := by
  have hvalues : (own.all fun h => isHeaderValue h.2) = true ↔
      ∀ h ∈ own, isHeaderValue h.2 = true := List.all_eq_true
  have hlength : (withDefaults ((splitUser url).2 ++ own) defaults).lookup contentLength = none :=
    lookup_withDefaults_eq_none
      (by rw [List.lookup_append, lookup_splitUser, hown]; rfl) hdefaults
  simp only [Request.make, sentBody?_of_lookup hlength, ← hvalues]
  cases url.hasHost <;> cases own.all fun h => isHeaderValue h.2 <;>
    cases isSendable (splitUser url).1 <;> simp [eq_comm]

end SyntheticLoad.Http

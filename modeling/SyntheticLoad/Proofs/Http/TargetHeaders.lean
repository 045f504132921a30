import Mathlib
import SyntheticLoad.Http.Delivery
import SyntheticLoad.Proofs.Http.HeaderMap

/-!
# Headers of a target

The headers of a target are set one after the other: the token first, then the further headers
in their order (`lookedAt`). Which fault is reported and which value stays are both matters of
this order, but from opposite ends.

* The first header that cannot be sent ends it all, and a name is looked at before its value
  (`targetHeaders_of_fault`).
* If there is none, the last header of a name has its value in the map, where the kind of the
  body counts as the very first (`values_targetHeaders`).
-/

namespace SyntheticLoad.Http

/-! ### What is looked at -/

/-- The headers of a target in the order in which they are looked at. -/
def lookedAt (t : Target) : List (String × String) :=
  (t.authToken.map (authorization, ·)).toList ++ t.headers

/-- A header can be sent. -/
def Sendable (h : String × String) : Prop := isHeaderName h.1 = true ∧ isHeaderValue h.2 = true

/-- A header cannot be sent. If neither its name nor its value will do, it is the name that is
    to blame. -/
inductive Unsendable : String × String → HeaderFault → Prop
  | name {h : String × String} : isHeaderName h.1 = false → Unsendable h .invalidName
  | value {h : String × String} :
    isHeaderName h.1 = true → isHeaderValue h.2 = false → Unsendable h .invalidValue

theorem Sendable.setHeader {h : String × String} (hs : Sendable h) (m : HeaderMap) :
    setHeader m h.1 h.2 = .ok (HeaderMap.put (headerKey h.1) h.2 m) := by
  rw [Http.setHeader, HeaderMap.set, hs.1, hs.2]
  rfl

theorem Unsendable.setHeader {h : String × String} {fault : HeaderFault} (hu : Unsendable h fault)
    (m : HeaderMap) : setHeader m h.1 h.2 = .error (.badHeader h.1 fault) := by
  cases hu with
  | name hname =>
    rw [Http.setHeader, HeaderMap.set, hname]
    rfl
  | value hname hvalue =>
    rw [Http.setHeader, HeaderMap.set, hname, hvalue]
    rfl

theorem sendable_or_unsendable (h : String × String) :
    Sendable h ∨ ∃ fault, Unsendable h fault := by
  cases hname : isHeaderName h.1 with
  | false => exact .inr ⟨_, .name hname⟩
  | true =>
    cases hvalue : isHeaderValue h.2 with
    | false => exact .inr ⟨_, .value hname hvalue⟩
    | true => exact .inl ⟨hname, hvalue⟩

/-- The first header that cannot be sent, and why. -/
def FirstFault (hs : List (String × String)) (name : String) (fault : HeaderFault) : Prop :=
  ∃ before value after, hs = before ++ (name, value) :: after ∧ (∀ h ∈ before, Sendable h) ∧
    Unsendable (name, value) fault

/-- Either all headers can be sent, or there is a first one that cannot. -/
theorem all_sendable_or_firstFault (hs : List (String × String)) :
    (∀ h ∈ hs, Sendable h) ∨ ∃ name fault, FirstFault hs name fault := by
  induction hs with
  | nil => exact .inl (List.forall_mem_nil _)
  | cons h hs ih =>
    rcases sendable_or_unsendable h with hsend | ⟨fault, hu⟩
    · rcases ih with hall | ⟨name, fault, before, value, after, rfl, hbefore, hu⟩
      · exact .inl (List.forall_mem_cons.2 ⟨hsend, hall⟩)
      · exact .inr ⟨name, fault, h :: before, value, after, rfl,
          List.forall_mem_cons.2 ⟨hsend, hbefore⟩, hu⟩
    · exact .inr ⟨h.1, fault, [], h.2, hs, rfl, List.forall_mem_nil _, hu⟩

/-! ### The headers of a target -/

/-- The map that the headers of a target are set in. -/
def startMap : HeaderMap := [(contentType, jsonType)]

theorem canonical_startMap : startMap.Canonical :=
  ⟨List.forall_mem_singleton.2 (by decide), List.pairwise_singleton _ _⟩

theorem targetHeaders_eq (t : Target) :
    targetHeaders t = (lookedAt t).foldlM (fun m h => setHeader m h.1 h.2) startMap := by
  rw [targetHeaders, lookedAt, List.foldlM_append]
  cases t.authToken with
  | none => rfl
  | some token =>
    rw [Option.map_some, Option.toList_some, List.foldlM_cons]
    simp only [List.foldlM_nil, bind_pure]
    rfl

theorem foldlM_setHeader {hs : List (String × String)} (h : ∀ h ∈ hs, Sendable h)
    (rest : List (String × String)) (m : HeaderMap) :
    (hs ++ rest).foldlM (fun m h => setHeader m h.1 h.2) m =
      rest.foldlM (fun m h => setHeader m h.1 h.2) (m.putAll hs) := by
  induction hs generalizing m with
  | nil => rfl
  | cons p hs ih =>
    obtain ⟨hp, hhs⟩ := List.forall_mem_cons.1 h
    rw [List.cons_append, List.foldlM_cons, hp.setHeader]
    exact ih hhs _

theorem targetHeaders_of_sendable {t : Target} (h : ∀ h ∈ lookedAt t, Sendable h) :
    targetHeaders t = .ok (startMap.putAll (lookedAt t)) := by
  have hall := foldlM_setHeader h [] startMap
  rw [List.append_nil] at hall
  rw [targetHeaders_eq, hall]
  rfl

theorem targetHeaders_of_fault {t : Target} {name : String} {fault : HeaderFault}
    (h : FirstFault (lookedAt t) name fault) :
    targetHeaders t = .error (.badHeader name fault) := by
  obtain ⟨before, value, after, heq, hbefore, hu⟩ := h
  rw [targetHeaders_eq, heq, foldlM_setHeader hbefore, List.foldlM_cons, hu.setHeader]
  rfl

theorem targetHeaders_eq_ok_iff {t : Target} {m : HeaderMap} :
    targetHeaders t = .ok m ↔
      (∀ h ∈ lookedAt t, Sendable h) ∧ m = startMap.putAll (lookedAt t) := by
  constructor
  · intro hok
    rcases all_sendable_or_firstFault (lookedAt t) with hall | ⟨name, fault, hf⟩
    · rw [targetHeaders_of_sendable hall] at hok
      exact ⟨hall, (Except.ok.inj hok).symm⟩
    · rw [targetHeaders_of_fault hf] at hok
      cases hok
  · rintro ⟨hall, rfl⟩
    exact targetHeaders_of_sendable hall

theorem targetHeaders_eq_error_iff {t : Target} {e : TargetError} :
    targetHeaders t = .error e ↔
      ∃ name fault, FirstFault (lookedAt t) name fault ∧ e = .badHeader name fault := by
  constructor
  · intro herror
    rcases all_sendable_or_firstFault (lookedAt t) with hall | ⟨name, fault, hf⟩
    · rw [targetHeaders_of_sendable hall] at herror
      cases herror
    · rw [targetHeaders_of_fault hf] at herror
      exact ⟨name, fault, hf, (Except.error.inj herror).symm⟩
  · rintro ⟨name, fault, hf, rfl⟩
    exact targetHeaders_of_fault hf

/-- The name of the header with the token is always one. -/
theorem all_sendable_lookedAt_iff (t : Target) :
    (∀ h ∈ lookedAt t, Sendable h) ↔
      (∀ token ∈ t.authToken, isHeaderValue token = true) ∧
        ∀ h ∈ t.headers, isHeaderName h.1 = true ∧ isHeaderValue h.2 = true := by
  have hname : isHeaderName authorization = true := by decide
  rw [lookedAt, List.forall_mem_append]
  refine and_congr_left fun _ => ?_
  cases t.authToken with
  | none => simp
  | some token => simp [Sendable, hname]

/-- The value that a target gives a header: that of the last further header of the name, or else
    the token, or else the kind of the body. -/
def targetValue? (t : Target) (name : String) : Option String :=
  (lastNamed name t.headers).or
    ((if sameName authorization name then t.authToken else none).or
      (if sameName contentType name then some jsonType else none))

theorem values_targetHeaders (t : Target) (name : String) :
    (startMap.putAll (lookedAt t)).values name = (targetValue? t name).toList := by
  have htoken : lastNamed name (t.authToken.map (authorization, ·)).toList =
      if sameName authorization name then t.authToken else none := by
    cases t.authToken with
    | none => exact (ite_self none).symm
    | some token => exact lastNamed_singleton name _
  have hstart : startMap.values name =
      (if sameName contentType name then some jsonType else none).toList := by
    rw [startMap, HeaderMap.values_cons]
    split <;> rfl
  rw [canonical_startMap.values_putAll, lookedAt, lastNamed_append, htoken, hstart, targetValue?,
    ← Option.or_assoc]
  cases (lastNamed name t.headers).or
    (if sameName authorization name then t.authToken else none) <;> rfl

theorem isSome_targetValue?_iff (t : Target) (name : String) :
    (targetValue? t name).isSome = true ↔
      (∃ h ∈ t.headers, sameName h.1 name = true) ∨
        (t.authToken.isSome = true ∧ sameName authorization name = true) ∨
        sameName contentType name = true := by
  have hlast : (lastNamed name t.headers).isSome = true ↔
      ∃ h ∈ t.headers, sameName h.1 name = true := by
    rw [Option.isSome_iff_ne_none, Ne, lastNamed_eq_none_iff]
    simp only [not_forall, Bool.not_eq_false, exists_prop]
  rw [targetValue?, Option.isSome_or, Option.isSome_or, Bool.or_eq_true, Bool.or_eq_true, hlast]
  refine or_congr_right (or_congr ?_ ?_)
  · split
    · next hsame => exact (and_iff_left hsame).symm
    · next hsame => exact iff_of_false nofun fun h => hsame h.2
  · split
    · next hsame => exact iff_of_true rfl hsame
    · next hsame => exact iff_of_false nofun hsame

theorem values_targetHeaders_of_ok {t : Target} {m : HeaderMap} (h : targetHeaders t = .ok m)
    (name : String) : m.values name = (targetValue? t name).toList := by
  rw [(targetHeaders_eq_ok_iff.1 h).2, values_targetHeaders]

/-! ### Endpoints -/

/-- An address that cannot be read is reported whatever the headers are. -/
theorem Endpoint.ofTarget_of_badAddress {t : Target} {reason : UrlError}
    (h : Url.parse t.endpoint = .error reason) :
    ofTarget t = .error (.badAddress t.endpoint reason) := by
  rw [ofTarget, readAddress, h]
  rfl

theorem Endpoint.ofTarget_of_address {t : Target} {url : Url} (h : Url.parse t.endpoint = .ok url) :
    ofTarget t = (targetHeaders t).map fun m => ⟨url, m, t.captureBody⟩ := by
  rw [ofTarget, readAddress, h]
  cases targetHeaders t <;> rfl

/-- **The last value and the first fault.** A target has headers just if its token, if there is
    one, may be a value, and the names and values of its further headers may be such. Then
    every name has one value, in whatever case it is asked for, that the target gives
    it, or none if it gives none. Otherwise the fault is that of the first header
    that cannot be sent, the token's before all others, and under the name as it is given. All
    this is looked at only once the address has been read. -/
theorem target_last_value_first_fault (t : Target) :
    ((∃ m, targetHeaders t = .ok m) ↔
      (∀ token ∈ t.authToken, isHeaderValue token = true) ∧
        ∀ h ∈ t.headers, isHeaderName h.1 = true ∧ isHeaderValue h.2 = true) ∧
    (∀ m, targetHeaders t = .ok m → ∀ name,
      m.values name = (targetValue? t name).toList ∧
      ((∃ value, m.values name = [value]) ↔
        (∃ h ∈ t.headers, sameName h.1 name = true) ∨
          (t.authToken.isSome = true ∧ sameName authorization name = true) ∨
          sameName contentType name = true)) ∧
    (∀ e, targetHeaders t = .error e ↔
      ∃ name fault, FirstFault (lookedAt t) name fault ∧ e = .badHeader name fault) ∧
    (∀ reason, Url.parse t.endpoint = .error reason →
      Endpoint.ofTarget t = .error (.badAddress t.endpoint reason)) ∧
    ∀ url, Url.parse t.endpoint = .ok url →
      Endpoint.ofTarget t = (targetHeaders t).map fun m => ⟨url, m, t.captureBody⟩ := by
  refine ⟨?_, fun m hm name => ?_, fun e => targetHeaders_eq_error_iff,
    fun reason => Endpoint.ofTarget_of_badAddress, fun url => Endpoint.ofTarget_of_address⟩
  · rw [← all_sendable_lookedAt_iff]
    exact ⟨fun ⟨m, hm⟩ => (targetHeaders_eq_ok_iff.1 hm).1,
      fun hall => ⟨_, targetHeaders_of_sendable hall⟩⟩
  · have hvalues := values_targetHeaders_of_ok hm name
    refine ⟨hvalues, ?_⟩
    rw [hvalues, ← isSome_targetValue?_iff]
    cases targetValue? t name with
    | none => exact iff_of_false (fun ⟨_, h⟩ => absurd h (by simp)) nofun
    | some value => exact iff_of_true ⟨value, rfl⟩ rfl

/-- A target with names in several spellings, one with a token and a name that are both bad,
    and the same one at a bad address. -/
theorem target_last_value_first_fault_of_spellings :
    let t : Target := ⟨"http://[::1]/", some "token",
      [("Project", "one"), ("AUTHORIZATION", "mine"), ("PROJECT", "two")], false⟩
    let bad : Target := ⟨"http://[::1]/", some "line\nbreak", [("bad name", "x")], false⟩
    (∃ m, targetHeaders t = .ok m ∧ m.values "project" = ["two"] ∧
      m.values "Authorization" = ["mine"] ∧ m.values "content-type" = ["application/json"] ∧
      m.values "accept" = []) ∧
    Endpoint.ofTarget bad = .error (.badHeader "authorization" .invalidValue) ∧
    Endpoint.ofTarget { bad with endpoint := "a" } =
      .error (.badAddress "a" .noScheme) := by
  intro t bad
  obtain ⟨hok, hvalues, -⟩ := target_last_value_first_fault t
  obtain ⟨-, -, hfault, -, hheaders⟩ := target_last_value_first_fault bad
  obtain ⟨-, -, -, haddress, -⟩ := target_last_value_first_fault { bad with endpoint := "a" }
  obtain ⟨m, hm⟩ := hok.2 ⟨by decide, by decide⟩
  have hurl : Url.parse "http://[::1]/" = .ok ⟨"http", "", "",
      some (.ipv6 [0, 0, 0, 0, 0, 0, 0, 1]), none, .segments [""], none, none⟩ := by cbv
  have hnone : Url.parse "a" = .error .noScheme := by cbv
  have hbad : targetHeaders bad = .error (.badHeader "authorization" .invalidValue) :=
    (hfault _).2 ⟨_, _, ⟨[], "line\nbreak", [("bad name", "x")], rfl, List.forall_mem_nil _,
      .value (by decide) (by decide)⟩, rfl⟩
  refine ⟨⟨m, hm, (hvalues m hm _).1, (hvalues m hm _).1, (hvalues m hm _).1, (hvalues m hm _).1⟩,
    ?_, haddress _ hnone⟩
  rw [hheaders _ hurl, hbad]
  rfl

end SyntheticLoad.Http

import SyntheticLoad.Proofs.Scenario.Schedule

/-!
# The accounts of a scenario

At an address of the web that names no user, the users of a scenario keep to rules in every
course of their turns (`Conduct`): nobody else acts, a document is posted whenever there is an
address to post it to, and a token is shown by those who got one from their login and by nobody
else. And when all users are done, the summary shows what the diary tells (`Accounts`), in
whatever order the users are counted.
-/

namespace SyntheticLoad.Scenario

open Http SyntheticLoad.Random Text

/-- The path that a document is posted to. -/
def Act.postPath? : Act → Option String
  | register .. => some Session.registerPath
  | login .. => some Session.loginPath
  | _ => none

/-- The headers of the request for an act, for a user with the token, if there is one. -/
def Act.headers (token : Option String) : Act → List (String × String)
  | register .. => [(contentType, jsonType)]
  | login .. => [(contentType, jsonType)]
  | browse .. =>
    match token with
    | none => []
    | some token => [(authorization, "Bearer " ++ token)]
  | _ => []

/-- The rules that the users of a session with a service keep to. -/
structure Conduct (plan : ScenarioPlan) (session : Session) (ds : Diary) : Prop where
  /-- Nobody but the users acts. -/
  numbers : ∀ e ∈ ds, e.1 < plan.users
  /-- There is a request for every document, unless there is no address to post it to. -/
  posts : ∀ e ∈ ds, ∀ path, e.2.postPath? = some path →
    (e.2.request?.isSome = true ↔ session.CanPost path)
  /-- A user has the token of its login, if that gives one. -/
  headers : ∀ e ∈ ds, ∀ request, e.2.request? = some request →
    request.headers = e.2.headers ((Diary.of ds e.1).findSome? Act.token?)
  /-- There are only so many turns. -/
  length_le : ds.length ≤ plan.turnBound

/-- What a summary shows of a diary, when the users are done. -/
structure Accounts (plan : ScenarioPlan) (session : Session) (ds : Diary) (s : ScenarioSummary) :
    Prop where
  /-- Each user registers once. -/
  registers : ∀ n < plan.users, (Diary.of ds n).countP Act.isRegister = 1
  /-- A user logs in once if its registration was answered with 200, and else it does not. -/
  logins : ∀ n < plan.users, (Diary.of ds n).countP Act.isLogin =
    if (Diary.of ds n).any Act.isRegistered then 1 else 0
  tasks : ∀ n < plan.users, (Diary.of ds n).countP Act.isTask = plan.iterations.toNat
  registrations : ds.countP (fun e => e.2.isRegister) = plan.users
  /-- Unless there is no address for them, all registrations are requested. -/
  requested : session.CanPost Session.registerPath →
    ds.countP (fun e => e.2.isRegister && e.2.request?.isSome) = plan.users
  /-- The summary counts the failures of users and their tasks. -/
  summary_eq : { s with durationMs := 0 } = ds.summary plan.users
  failures_le : plan.users < UInt64.size →
    s.registrationsFailed.toNat = ds.usersWith Act.isRefused plan.users ∧
      s.loginsFailed.toNat = ds.usersWith Act.isTokenless plan.users ∧
      s.registrationsFailed.toNat + s.loginsFailed.toNat ≤ plan.users
  browses : s.browseOk + s.browseFailed = UInt64.ofNat (ds.countP fun e => e.2.isBrowse)
  allTasks : s.browseOk + s.browseFailed + s.healthChecks =
    UInt64.ofNat (plan.users * plan.iterations.toNat)
  /-- Unless there are too many tasks for a word, nothing is lost. -/
  counts : plan.users * plan.iterations.toNat < UInt64.size →
    s.browseOk.toNat = ds.countP (fun e => e.2.isBrowseOk) ∧
      s.browseOk.toNat + s.browseFailed.toNat = ds.countP (fun e => e.2.isBrowse) ∧
      s.browseOk.toNat + s.browseFailed.toNat + s.healthChecks.toNat =
        plan.users * plan.iterations.toNat

/-! ### The rules -/

section

variable {plan : ScenarioPlan} {session : Session} {words : List Keystream} {ds : Diary}

theorem Act.postPath?_of_isRegister {a : Act} (h : a.isRegister = true) :
    a.postPath? = some Session.registerPath := by
  cases a with
  | register request answer => rfl
  | _ => cases h

/-- There is a request for a document, unless there is no address to post it to. -/
theorem Act.Asks.isSome_request {u : User} {a : Act} (h : a.Asks plan u)
    (hanonymous : u.session.Anonymous) {path : String} (hpath : a.postPath? = some path) :
    a.request?.isSome = true ↔ u.session.CanPost path := by
  cases a with
  | register request answer =>
    obtain ⟨rfl, -⟩ := h
    cases hpath
    exact Session.isSome_postRequest hanonymous _ _
  | login request answer =>
    obtain ⟨rfl, -⟩ := h
    cases hpath
    exact Session.isSome_postRequest hanonymous _ _
  | _ => cases hpath

/-- A user shows the token of its session where it looks at its projects, and nowhere else. -/
theorem Act.Asks.headers {u : User} {a : Act} (h : a.Asks plan u)
    (hanonymous : u.session.Anonymous) {request : Request} (hrequest : a.request? = some request) :
    request.headers = a.headers u.session.token := by
  -- The request is the one that the session makes for the act.
  have hmade : ∀ {made : Except ExchangeFault Request},
      made.toOption = some request → made = .ok request := by
    intro made hsome
    cases made with
    | error fault => cases hsome
    | ok made => exact congrArg Except.ok (Option.some.inj hsome)
  cases a with
  | register made answer =>
    obtain ⟨rfl, -⟩ := h
    exact Session.headers_postRequest hanonymous (hmade hrequest)
  | login made answer =>
    obtain ⟨rfl, -⟩ := h
    exact Session.headers_postRequest hanonymous (hmade hrequest)
  | browse made answer =>
    obtain ⟨rfl, -⟩ := h
    exact Session.headers_getRequest hanonymous (hmade hrequest)
  | _ => cases hrequest

theorem Diary.mem_of {e : Nat × Act} (he : e ∈ ds) : e.2 ∈ Diary.of ds e.1 :=
  List.mem_map_of_mem (List.mem_filter.2 ⟨he, beq_self_eq_true e.1⟩)

/-- Users with a life of their own keep to the rules. -/
theorem Lives.conduct {ν : Type} {c : Crowd ν} (h : Lives plan session words ds c)
    (hwords : words.length = plan.users) (hanonymous : session.Anonymous) :
    Conduct plan session ds := by
  -- The user of an entry has made the request, with the session that it has now.
  have huser : ∀ e ∈ ds, ∃ u : User, e.2.Asks plan u ∧ u.session.base = session.base ∧
      u.session.token = (Diary.of ds e.1).findSome? Act.token? := by
    intro e he
    have hn : e.1 < c.users.length := h.length ▸ h.numbers e he
    obtain ⟨w, -, hlife⟩ := h.lives e.1 _ (List.getElem?_eq_getElem hn)
    have hbase := congrArg Session.base (User.session_enter session w)
    exact ⟨_, hlife.asks e.2 (Diary.mem_of he), hlife.base.trans hbase, hlife.token⟩
  exact {
    numbers := fun e he => hwords ▸ h.numbers e he
    posts := fun e he path hpath => by
      obtain ⟨u, hasks, hbase, -⟩ := huser e he
      rw [hasks.isSome_request (hanonymous.congr hbase) hpath, Session.canPost_congr hbase]
    headers := fun e he request hrequest => by
      obtain ⟨u, hasks, hbase, htoken⟩ := huser e he
      rw [hasks.headers (hanonymous.congr hbase) hrequest, htoken]
    length_le := (h.length_le hwords).1 }

/-- With an address to post to, there is a request for every registration. -/
theorem Conduct.countP_requested (h : Conduct plan session ds)
    (hpost : session.CanPost Session.registerPath) :
    ds.countP (fun e => e.2.isRegister && e.2.request?.isSome) =
      ds.countP fun e => e.2.isRegister := by
  refine List.countP_congr fun e he => ?_
  rw [Bool.and_eq_true, and_iff_left_iff_imp]
  intro hregister
  exact (h.posts e he _ (Act.postPath?_of_isRegister hregister)).2 hpost

end

/-! ### The accounts -/

section

variable {ν : Type} {plan : ScenarioPlan} {session : Session} {words : List Keystream}
  {ds : Diary} {c : Crowd ν}

/-- Entries of a kind that is split into two. -/
theorem Diary.countP_split {p q r : Act → Bool}
    (h : ∀ a, (p a).toNat + (q a).toNat = (r a).toNat) (ds : Diary) :
    ds.countP (fun e => p e.2) + ds.countP (fun e => q e.2) = ds.countP fun e => r e.2 := by
  have hsplit := Scenario.countP_split h (ds.map Prod.snd)
  rwa [List.countP_map, List.countP_map, List.countP_map] at hsplit

/-- A number that is not larger than one there is room for is itself as a word. -/
theorem toNat_ofNat_of_le {n m : Nat} (hn : n ≤ m) (hm : m < UInt64.size) :
    (UInt64.ofNat n).toNat = n := UInt64.toNat_ofNat_of_lt (Nat.lt_of_le_of_lt hn hm)

/-- When users with a life of their own are done, their summary shows what they have done. -/
theorem Lives.accounts (h : Lives plan session words ds c) (hwords : words.length = plan.users)
    (hanonymous : session.Anonymous) (hdone : c.isDone = true) {s : ScenarioSummary}
    (hs : { s with durationMs := 0 } = ScenarioSummary.ofTallies (c.users.map User.tally)) :
    Accounts plan session ds s := by
  rw [h.summary_eq hdone, hwords] at hs
  have hrefused : s.registrationsFailed = UInt64.ofNat (ds.usersWith Act.isRefused plan.users) :=
    congrArg ScenarioSummary.registrationsFailed hs
  have htokenless : s.loginsFailed = UInt64.ofNat (ds.usersWith Act.isTokenless plan.users) :=
    congrArg ScenarioSummary.loginsFailed hs
  have hok : s.browseOk = UInt64.ofNat (ds.countP fun e => e.2.isBrowseOk) :=
    congrArg ScenarioSummary.browseOk hs
  have hfailed : s.browseFailed = UInt64.ofNat (ds.countP fun e => e.2.isBrowseFailed) :=
    congrArg ScenarioSummary.browseFailed hs
  have hhealth : s.healthChecks = UInt64.ofNat (ds.countP fun e => e.2.isHealthCheck) :=
    congrArg ScenarioSummary.healthChecks hs
  have hbrowses := Diary.countP_split Act.browses ds
  have htasks := Diary.countP_split Act.tasks ds
  have hcounts := fun n (hn : n < words.length) => h.counts_of_isDone hdone hn
  have hregisters := h.countP_eq_mul fun n hn => (hcounts n hn).1
  have hall := h.countP_eq_mul fun n hn => (hcounts n hn).2.2
  rw [hwords] at hcounts hall
  rw [hwords, Nat.mul_one] at hregisters
  refine {
    registers := fun n hn => (hcounts n hn).1
    logins := fun n hn => (hcounts n hn).2.1
    tasks := fun n hn => (hcounts n hn).2.2
    registrations := hregisters
    requested := fun hpost => ?_
    summary_eq := hs
    failures_le := fun hroom => ?_
    browses := ?_
    allTasks := ?_
    counts := fun hroom => ?_ }
  · rw [← hregisters]
    exact (h.conduct hwords hanonymous).countP_requested hpost
  · have hle := h.failures_le hdone
    rw [hwords] at hle
    rw [hrefused, htokenless, toNat_ofNat_of_le (ds.usersWith_le _ _) hroom,
      toNat_ofNat_of_le (ds.usersWith_le _ _) hroom]
    exact ⟨rfl, rfl, hle⟩
  · rw [hok, hfailed, ← UInt64.ofNat_add, hbrowses]
  · rw [hok, hfailed, hhealth, ← UInt64.ofNat_add, ← UInt64.ofNat_add, hbrowses, htasks, hall]
  · rw [hok, hfailed, hhealth, toNat_ofNat_of_le (by omega) hroom,
      toNat_ofNat_of_le (by omega) hroom, toNat_ofNat_of_le (by omega) hroom]
    exact ⟨rfl, hbrowses, by omega⟩

end

/-! ### Whole scenarios -/

/-- **The accounts of a scenario.** Let users take turns in any order, each with any random words,
    with a network that answers whatever it likes or nothing, at an address of the web that names
    no user. Then

    * there is a session, and if documents can be sent to the address and no blanks stand behind
      it, they can be posted to all paths with which it is not too long;
    * turns are those of courses, and every course keeps to the rules, the network has got the
      requests of the diary, and each user who is not done can go on;
    * when all are done, the summary is that of the diary, whoever of them is counted first;
    * a timed scenario comes to its end in such a course. -/
theorem scenario_accounts {ν : Type} (plan : ScenarioPlan) (network : Network ν)
    (words : List Keystream) (state : ν) {url : Url} (hwords : words.length = plan.users)
    (hurl : Url.parse plan.address = .ok url) (hscheme : url.scheme = "http")
    (hname : url.username = "") (hpassword : url.password = "") :
    ∃ session, Session.connect plan.address = .ok session ∧
      (isSendable url = true → url.hasHost = true →
        trimRight Url.isOuter plan.address.toList = plan.address.toList → ∀ path,
        ∃ joined, Url.parse (session.address path) = .ok joined ∧
          (session.CanPost path ↔ joined.text.length ≤ longestAddress)) ∧
      (∀ ns c, Crowd.Reaches network plan (.enter session words state) ns c ↔
        ∃ ds : Diary, ds.map Prod.fst = ns ∧
          Course plan network (.enter session words state) ds c) ∧
      (∀ ds c, Course plan network (.enter session words state) ds c →
        Conduct plan session ds ∧
        Course plan network.logged (.enter session words (state, [])) ds
          ⟨c.users, c.network, ds.requests⟩ ∧
        (∀ n u, c.users[n]? = some u → u.phase ≠ .done →
          ∃ a d, Course plan network (.enter session words state) (ds ++ [(n, a)]) d) ∧
        (c.isDone = true → ∀ tallies, tallies.Perm (c.users.map User.tally) →
          Accounts plan session ds (.ofTallies tallies))) ∧
      ∃ ds c result, Course plan network (.enter session words state) ds c ∧ c.isDone = true ∧
        plan.run network words state = .ok result ∧ result.network = c.network ∧
        Accounts plan session ds result.summary := by
  have hspecial : SchemeKind.ofScheme url.scheme = .special := by
    rw [hscheme]
    rfl
  obtain ⟨session, hsession, hbase, htoken⟩ : ∃ session : Session,
      Session.connect plan.address = .ok session ∧
      session.base = String.ofList (trimRight (· == '/') plan.address.toList) ∧
      session.token = none := ⟨_, Session.connect_of_parse hurl, rfl, rfl⟩
  have hanonymous := Session.anonymous_of_parse hbase hurl hspecial hname hpassword
  refine ⟨session, hsession, Session.canPost_iff hbase hurl hspecial,
    fun ns c => reaches_iff_exists_course, fun ds c hc => ?_, ?_⟩
  · have hlives := hc.lives htoken
    refine ⟨hlives.conduct hwords hanonymous, hc.logged, fun n u hu hdone => ?_,
      fun hdone tallies hperm => ?_⟩
    · obtain ⟨w, -, hlife⟩ := hlives.lives n u hu
      obtain ⟨a, d, t, -, hnext⟩ := hc.exists_turn hu hdone hlife.progress.phase_ne
      exact ⟨a, d, hnext⟩
    · rw [ofTallies_perm hperm]
      exact hlives.accounts hwords hanonymous hdone (by rw [hlives.summary_eq hdone]; rfl)
  · obtain ⟨ds, c, result, hc, hdone, hrun, hnetwork, hsummary⟩ :=
      plan.exists_run network hwords state htoken hsession
    refine ⟨ds, c, result, hc, hdone, hrun, hnetwork, ?_⟩
    have hlives := hc.lives htoken
    refine hlives.accounts hwords hanonymous hdone ?_
    rw [hsummary, hlives.summary_eq hdone]
    rfl

set_option maxRecDepth 8000 in
/-- With a service at the address of the machine itself that refuses everything, all 10 users ask
    for an account, and they do their 200 tasks all the same. -/
theorem scenario_accounts_loopback :
    ∃ (ds : Diary) (result : ScenarioPlan.Result Nat),
      (ScenarioPlan.basic "http://[::1]:8080").run
        ⟨fun _ requests => (some ⟨503, none⟩, requests + 1)⟩
        (List.replicate 10 (Keystream.ofSeed 42)) 0 = .ok result ∧
      ds.countP (fun e => e.2.isRegister && e.2.request?.isSome) = 10 ∧
      result.summary.browseOk.toNat + result.summary.browseFailed.toNat +
        result.summary.healthChecks.toNat = 200 := by
  have hurl : Url.parse (ScenarioPlan.basic "http://[::1]:8080").address =
      .ok ⟨"http", "", "", some (.ipv6 [0, 0, 0, 0, 0, 0, 0, 1]), some 8080, .segments [""], none,
        none⟩ := by cbv
  obtain ⟨session, hsession, -, -, -, ds, c, result, -, -, hrun, -, haccounts⟩ :=
    scenario_accounts (ScenarioPlan.basic "http://[::1]:8080")
      ⟨fun _ requests => (some ⟨503, none⟩, requests + 1)⟩
      (List.replicate 10 (Keystream.ofSeed 42)) 0 List.length_replicate hurl rfl rfl rfl
  have hpost : session.CanPost Session.registerPath := by
    rw [Session.connect_of_parse hurl] at hsession
    cases hsession
    refine ⟨⟨"http", "", "", some (.ipv6 [0, 0, 0, 0, 0, 0, 0, 1]), some 8080,
      .segments ["auth", "register", ""], none, none⟩, ?_, by cbv, by cbv⟩
    cbv
  exact ⟨ds, result, hrun, haccounts.requested hpost, (haccounts.counts (by decide)).2.2⟩

end SyntheticLoad.Scenario

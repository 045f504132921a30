import SyntheticLoad.Proofs.Scenario.Diary
import SyntheticLoad.Proofs.Session.Requests

/-!
# The life of a user

Whatever the others do and whatever the network answers, the life of a user goes from its
registration over its login, if the registration went well, through its tasks with a rest
between two of them. What holds of it (`Life`) is kept by every deed (`Life.does`):

* its tally counts what it has done (`Tallied`);
* it has registered once when it goes on, has logged in once if it was registered, and has
  done its tasks but for those that are left (`Progress`);
* its session has the token of its login, if there is one, and every request was the one
  that the user makes with this session (`Act.Asks`).

So the tallies of a user who is done show all of its acts.
-/

namespace SyntheticLoad.Scenario

open Http SyntheticLoad.Random

/-! ### Answers -/

/-- A registration goes well if it is answered with 200. -/
theorem concludeRegister_cases (answer : Except ExchangeFault Response) :
    (Act.isOk answer = true ∧ Session.concludeRegister answer = .ok ()) ∨
      (Act.isOk answer = false ∧ ∃ e, Session.concludeRegister answer = .error e) := by
  cases answer with
  | error fault => exact .inr ⟨rfl, _, rfl⟩
  | ok response =>
    rw [Act.isOk, Session.concludeRegister, Session.accepted]
    by_cases hstatus : response.status = 200
    · rw [if_pos hstatus]
      exact .inl ⟨beq_iff_eq.2 hstatus, rfl⟩
    · rw [if_neg hstatus]
      exact .inr ⟨beq_eq_false_iff_ne.2 hstatus, _, rfl⟩

/-- The projects have been seen if they are answered with 200. -/
theorem concludeGet_eq_iff (answer : Except ExchangeFault Response) :
    Session.concludeGet answer = .status 200 ↔ Act.isOk answer = true := by
  cases answer with
  | error fault =>
    refine ⟨fun h => ?_, fun h => ?_⟩
    · cases h
    · cases h
  | ok response =>
    rw [Act.isOk, Session.concludeGet, beq_iff_eq]
    exact ⟨fun h => Outcome.status.inj h, congrArg Outcome.status⟩

/-! ### What a deed leaves of a user -/

section

variable {plan : ScenarioPlan} {u u' : User} {a : Act}

/-- A user keeps its name. -/
theorem User.Does.name (h : u.Does plan a u') : u'.name = u.name := by
  cases h with
  | @register answer _ _ => cases Session.concludeRegister answer <;> rfl
  | @login answer _ _ =>
    rw [Session.afterLogin]
    cases Session.concludeLogin answer <;> rfl
  | browse _ _ _ => rw [User.afterBrowse]; split <;> rfl
  | checkHealth _ _ => rfl
  | rest _ => rfl

/-- A session has the token of a login that gives one. -/
theorem User.Does.session (h : u.Does plan a u') :
    u'.session = ⟨u.session.base, a.token?.or u.session.token⟩ := by
  cases h with
  | @register answer _ _ => cases Session.concludeRegister answer <;> rfl
  | @login answer _ _ =>
    rw [Act.token?, Session.afterLogin]
    cases Session.concludeLogin answer <;> rfl
  | browse _ _ _ => rw [User.afterBrowse]; split <;> rfl
  | checkHealth _ _ => rfl
  | rest _ => rfl

/-- A tally after an act. -/
def note (t : UserTally) (a : Act) : UserTally where
  registered := t.registered || a.isRegistered
  loggedIn := t.loggedIn || a.token?.isSome
  browseOk := if a.isBrowseOk then t.browseOk + 1 else t.browseOk
  browseFailed := if a.isBrowseFailed then t.browseFailed + 1 else t.browseFailed
  healthChecks := if a.isHealthCheck then t.healthChecks + 1 else t.healthChecks

/-- A user counts what it does. -/
theorem User.Does.tally (h : u.Does plan a u') : u'.tally = note u.tally a := by
  cases h with
  | @register answer _ _ =>
    rcases concludeRegister_cases answer with ⟨hok, hconclude⟩ | ⟨hok, e, hconclude⟩
    · simp [hconclude, User.afterRegister, note, hok]
    · simp [hconclude, User.afterRegister, note, hok]
  | @login answer _ _ =>
    rw [Session.afterLogin]
    cases hconclude : Session.concludeLogin answer <;>
      simp [User.afterLogin, note, hconclude, Except.toOption]
  | @browse left words answer _ _ _ =>
    rw [User.afterBrowse]
    by_cases hok : Act.isOk answer = true
    · rw [if_pos ((concludeGet_eq_iff answer).2 hok)]
      simp [note, hok]
    · rw [if_neg fun h => hok ((concludeGet_eq_iff answer).1 h)]
      simp [note, hok]
  | checkHealth _ _ => simp [note, User.afterHealthCheck]
  | @rest left _ =>
    have hkeep : (u.takeRest plan left).user.tally = u.tally := rfl
    simp [hkeep, note]

/-- An act leads from one phase to the next. -/
inductive Phase.Step (plan : ScenarioPlan) : Phase → Act → Phase → Prop
  | registered {request : Except ExchangeFault Request} {answer : Except ExchangeFault Response} :
    Act.isOk answer = true → Phase.Step plan .register (.register request answer) .login
  | refused {request : Except ExchangeFault Request} {answer : Except ExchangeFault Response} :
    Act.isOk answer = false → Phase.Step plan .register (.register request answer)
      (User.Phase.tasks plan.iterations.toNat)
  | login {request : Except ExchangeFault Request} {answer : Except ExchangeFault Response} :
    Phase.Step plan .login (.login request answer) (User.Phase.tasks plan.iterations.toNat)
  | task {left : Nat} {a : Act} : a.isTask = true →
    Phase.Step plan (.task (left + 1)) a (User.Phase.afterTask left)
  | rest {left : Nat} : Phase.Step plan (.rest left) .rest (User.Phase.tasks left)

theorem User.Does.phase (h : u.Does plan a u') : Phase.Step plan u.phase a u'.phase := by
  cases h with
  | @register answer hphase _ =>
    rw [hphase]
    rcases concludeRegister_cases answer with ⟨hok, hconclude⟩ | ⟨hok, e, hconclude⟩
    · rw [hconclude]
      exact .registered hok
    · rw [hconclude]
      exact .refused hok
  | @login answer hphase _ =>
    rw [hphase, Session.afterLogin]
    cases Session.concludeLogin answer <;> exact .login
  | browse hphase _ _ =>
    rw [hphase, User.afterBrowse]
    split <;> exact .task rfl
  | checkHealth hphase _ =>
    rw [hphase]
    exact .task rfl
  | rest hphase =>
    rw [hphase]
    exact .rest

end

/-! ### What has been done -/

section

variable {as : List Act} {a : Act}

/-- A tally shows what has been done. -/
structure Tallied (as : List Act) (t : UserTally) : Prop where
  registered : t.registered = as.any Act.isRegistered
  loggedIn : t.loggedIn = (as.findSome? Act.token?).isSome
  browseOk : t.browseOk = UInt64.ofNat (as.countP Act.isBrowseOk)
  browseFailed : t.browseFailed = UInt64.ofNat (as.countP Act.isBrowseFailed)
  healthChecks : t.healthChecks = UInt64.ofNat (as.countP Act.isHealthCheck)

theorem countP_concat (p : Act → Bool) (as : List Act) (a : Act) :
    (as ++ [a]).countP p = as.countP p + if p a then 1 else 0 := by
  rw [List.countP_append, List.countP_singleton]

theorem findSome?_concat (as : List Act) (a : Act) :
    (as ++ [a]).findSome? Act.token? = (as.findSome? Act.token?).or a.token? := by
  rw [List.findSome?_append, List.findSome?_singleton]

/-- A counter shows one act more. -/
theorem ofNat_countP_concat (p : Act → Bool) (as : List Act) (a : Act) :
    UInt64.ofNat ((as ++ [a]).countP p) =
      if p a then UInt64.ofNat (as.countP p) + 1 else UInt64.ofNat (as.countP p) := by
  rw [countP_concat]
  split
  · exact UInt64.ofNat_add _ _
  · rfl

theorem Tallied.note {t : UserTally} (h : Tallied as t) (a : Act) :
    Tallied (as ++ [a]) (note t a) where
  registered := by rw [Scenario.note, h.registered, List.any_append]; simp
  loggedIn := by rw [Scenario.note, h.loggedIn, findSome?_concat, Option.isSome_or]
  browseOk := by rw [Scenario.note, ofNat_countP_concat, h.browseOk]
  browseFailed := by rw [Scenario.note, ofNat_countP_concat, h.browseFailed]
  healthChecks := by rw [Scenario.note, ofNat_countP_concat, h.healthChecks]

variable (plan : ScenarioPlan)

/-- How many tasks are left in a phase. -/
def Phase.tasksLeft : Phase → Nat
  | .register => plan.iterations.toNat
  | .login => plan.iterations.toNat
  | .task left => left
  | .rest left => left
  | .done => 0

/-- More turns than are left in a phase. -/
def Phase.turnsLeft : Phase → Nat
  | .register => 2 * plan.iterations.toNat + 2
  | .login => 2 * plan.iterations.toNat + 1
  | .task left => 2 * left
  | .rest left => 2 * left + 1
  | .done => 0

@[simp] theorem Phase.tasksLeft_tasks (left : Nat) :
    (User.Phase.tasks left).tasksLeft plan = left := by
  cases left <;> rfl

@[simp] theorem Phase.tasksLeft_afterTask (left : Nat) :
    (User.Phase.afterTask left).tasksLeft plan = left := by
  cases left <;> rfl

@[simp] theorem Phase.turnsLeft_tasks (left : Nat) :
    (User.Phase.tasks left).turnsLeft plan = 2 * left := by
  cases left <;> rfl

theorem Phase.turnsLeft_afterTask (left : Nat) :
    (User.Phase.afterTask left).turnsLeft plan ≤ 2 * left + 1 := by
  cases left with
  | zero => exact Nat.zero_le _
  | succ left => exact Nat.le_refl _

/-- A phase of tasks, of which some are left in the phase of a task. -/
def Phase.IsLater : Phase → Prop
  | .register => False
  | .login => False
  | .task left => left ≠ 0
  | .rest _ => True
  | .done => True

theorem Phase.isLater_tasks (left : Nat) : (User.Phase.tasks left).IsLater := by
  cases left with
  | zero => exact trivial
  | succ left => exact Nat.succ_ne_zero left

theorem Phase.isLater_afterTask (left : Nat) : (User.Phase.afterTask left).IsLater := by
  cases left <;> exact trivial

/-- What a user in some phase has done. -/
inductive Progress : List Act → Phase → Prop
  | fresh : Progress [] .register
  | registered {a : Act} : a.isRegistered = true → Progress [a] .login
  | later {as : List Act} {p : Phase} : p.IsLater → as.countP Act.isRegister = 1 →
    as.countP Act.isLogin = (if as.any Act.isRegistered then 1 else 0) →
    as.countP Act.isTask + p.tasksLeft plan = plan.iterations.toNat →
    as.length + p.turnsLeft plan ≤ 2 * plan.iterations.toNat + 2 → Progress as p

variable {plan}

theorem Act.isRegister_of_isRegistered (h : a.isRegistered = true) : a.isRegister = true := by
  cases a <;> simp at h ⊢

/-- Neither a registration nor a login is done again. -/
theorem Progress.later_concat {q : Phase} (hq : q.IsLater)
    (hregister : as.countP Act.isRegister = 1)
    (hlogin : as.countP Act.isLogin = if as.any Act.isRegistered then 1 else 0)
    (ha : a.isRegister = false ∧ a.isLogin = false)
    (htasks : (as ++ [a]).countP Act.isTask + q.tasksLeft plan = plan.iterations.toNat)
    (hturns : (as ++ [a]).length + q.turnsLeft plan ≤ 2 * plan.iterations.toNat + 2) :
    Progress plan (as ++ [a]) q := by
  have hregistered : a.isRegistered = false :=
    Bool.eq_false_iff.2 fun h => Bool.false_ne_true (ha.1 ▸ Act.isRegister_of_isRegistered h)
  have hany : (as ++ [a]).any Act.isRegistered = as.any Act.isRegistered := by
    rw [List.any_append, List.any_cons, hregistered, List.any_nil, Bool.or_false, Bool.or_false]
  refine .later hq ?_ ?_ htasks hturns
  · rw [countP_concat, ha.1]
    exact hregister
  · rw [countP_concat, ha.2, hany]
    exact hlogin

/-- Acts and turns that are left are bounded together. -/
theorem Progress.length_le {p : Phase} (h : Progress plan as p) :
    as.length + p.turnsLeft plan ≤ 2 * plan.iterations.toNat + 2 := by
  cases h with
  | fresh => exact Nat.le_of_eq (Nat.zero_add _)
  | registered _ => exact Nat.le_of_eq (Nat.add_comm _ _)
  | later _ _ _ _ hturns => exact hturns

/-- Nobody is about to do a task when there is none. -/
theorem Progress.phase_ne {p : Phase} (h : Progress plan as p) : p ≠ .task 0 := by
  rintro rfl
  cases h with
  | later hlater => exact hlater rfl

/-- Whoever is not done has turns left. -/
theorem Progress.turnsLeft_pos {p : Phase} (h : Progress plan as p) (hdone : p ≠ .done) :
    0 < p.turnsLeft plan := by
  cases p with
  | register => exact Nat.succ_pos _
  | login => exact Nat.succ_pos _
  | task left =>
    have hleft : left ≠ 0 := fun hzero => h.phase_ne (congrArg Phase.task hzero)
    rw [Phase.turnsLeft]
    omega
  | rest left => exact Nat.succ_pos _
  | done => exact absurd rfl hdone

/-- An act goes with the phase that it leads to. -/
theorem Progress.step {p q : Phase} (h : Progress plan as p) (hstep : p.Step plan a q) :
    Progress plan (as ++ [a]) q := by
  cases hstep with
  -- Whoever registers has done nothing before, and whoever logs in has only registered.
  | registered hok =>
    cases h with
    | fresh => exact .registered hok
    | later hlater => exact absurd hlater id
  | refused hok =>
    cases h with
    | fresh =>
      refine .later (Phase.isLater_tasks _) rfl ?_ ?_ ?_
      · simp [hok]
      · simp
      · simp
        omega
    | later hlater => exact absurd hlater id
  | login =>
    cases h with
    | @registered a ha =>
      cases a with
      | register request answer =>
        refine .later (Phase.isLater_tasks _) rfl ?_ ?_ ?_
        · simpa using ha
        · simp
        · simp
          omega
      | _ => cases ha
    | later hlater => exact absurd hlater id
  | @task left a ha =>
    cases h with
    | later _ hregister hlogin htasks hturns =>
      -- A task takes one turn, and a rest before the next task takes another.
      have hstay : a.isRegister = false ∧ a.isLogin = false := by cases a <;> simp at ha ⊢
      refine later_concat (Phase.isLater_afterTask left) hregister hlogin hstay ?_ ?_
      · rw [countP_concat, if_pos ha, Phase.tasksLeft_afterTask, ← htasks, Phase.tasksLeft]
        omega
      · have hleft := Phase.turnsLeft_afterTask plan left
        rw [Phase.turnsLeft] at hturns
        rw [List.length_append, List.length_singleton]
        omega
  | @rest left =>
    cases h with
    | later _ hregister hlogin htasks hturns =>
      refine later_concat (Phase.isLater_tasks left) hregister hlogin ⟨rfl, rfl⟩ ?_ ?_
      · rw [countP_concat, Phase.tasksLeft_tasks, ← htasks]
        rfl
      · rw [Phase.turnsLeft] at hturns
        rw [List.length_append, List.length_singleton, Phase.turnsLeft_tasks]
        omega

end

/-! ### Lives -/

section

variable {plan : ScenarioPlan} {u₀ u u' : User} {as : List Act} {a : Act}

/-- The request of an act is the one that a user makes for it, and what came back may come back
    for it. -/
def Act.Asks (plan : ScenarioPlan) (u : User) : Act → Prop
  | register request answer =>
    request = u.session.registerRequest u.name plan.password u.email ∧ Hears request answer
  | login request answer =>
    request = u.session.loginRequest u.name plan.password ∧ Hears request answer
  | browse request answer =>
    request = u.session.getRequest (projectsPath u.name) ∧ Hears request answer
  | checkHealth => True
  | rest => True

/-- A user makes the requests of what it does. -/
theorem User.Does.asks (h : u.Does plan a u') : a.Asks plan u := by
  cases h with
  | register _ hhears => exact ⟨rfl, hhears⟩
  | login _ hhears => exact ⟨rfl, hhears⟩
  | browse _ _ hhears => exact ⟨rfl, hhears⟩
  | checkHealth _ _ => exact trivial
  | rest _ => exact trivial

/-- Another user of the same name at the same service makes the same requests, but for those with
    the token. -/
theorem Act.Asks.congr (h : a.Asks plan u) (hname : u'.name = u.name)
    (hbase : u'.session.base = u.session.base)
    (htoken : a.isBrowse = true → u'.session.token = u.session.token) : a.Asks plan u' := by
  have haddress := Session.address_congr hbase
  cases a with
  | register request answer =>
    obtain ⟨hrequest, hhears⟩ := h
    refine ⟨?_, hhears⟩
    rw [hrequest, User.email, User.email, hname, Session.registerRequest, Session.registerRequest,
      Session.postRequest, Session.postRequest, haddress]
  | login request answer =>
    obtain ⟨hrequest, hhears⟩ := h
    refine ⟨?_, hhears⟩
    rw [hrequest, hname, Session.loginRequest, Session.loginRequest, Session.postRequest,
      Session.postRequest, haddress]
  | browse request answer =>
    obtain ⟨hrequest, hhears⟩ := h
    refine ⟨?_, hhears⟩
    rw [hrequest, hname, Session.getRequest, Session.getRequest, Session.tokenHeader,
      Session.tokenHeader, htoken rfl, haddress]
  | checkHealth => exact trivial
  | rest => exact trivial

/-- What holds of a user that was `u₀` before it did anything. -/
structure Life (plan : ScenarioPlan) (u₀ : User) (as : List Act) (u : User) : Prop where
  name : u.name = u₀.name
  base : u.session.base = u₀.session.base
  /-- The session has the token of the login. -/
  token : u.session.token = as.findSome? Act.token?
  tallied : Tallied as u.tally
  progress : Progress plan as u.phase
  asks : ∀ a ∈ as, a.Asks plan u

theorem User.session_enter (session : Session) (words : Keystream) :
    (User.enter session words).session = session := by
  rw [enter]
  generalize drawName.run words = drawn
  rfl

/-- A user with a fresh session has done nothing. -/
theorem Life.enter (plan : ScenarioPlan) {session : Session} (htoken : session.token = none)
    (words : Keystream) : Life plan (.enter session words) [] (.enter session words) := by
  rw [User.enter]
  -- What is drawn for the name is of no matter.
  generalize drawName.run words = drawn
  exact {
    name := rfl
    base := rfl
    token := htoken
    tallied := ⟨rfl, rfl, rfl, rfl, rfl⟩
    progress := .fresh
    asks := fun _ ha => absurd ha List.not_mem_nil }

/-- Whoever logs in has only registered. -/
theorem Life.before_login (h : Life plan u₀ as u) (hphase : u.phase = .login) :
    ∃ request answer, as = [.register request answer] := by
  have hprogress := h.progress
  rw [hphase] at hprogress
  cases hprogress with
  | @registered a ha =>
    cases a with
    | register request answer => exact ⟨request, answer, rfl⟩
    | _ => cases ha
  | later hlater => exact absurd hlater id

/-- What holds of a user is kept by all it does. -/
theorem Life.does (h : Life plan u₀ as u) (hdoes : u.Does plan a u') :
    Life plan u₀ (as ++ [a]) u' := by
  -- Only a login changes the token, and there is nothing but the registration before it.
  have hlogin : a.token? = none ∨ ∃ request answer, as = [.register request answer] := by
    cases hdoes with
    | login hphase _ => exact .inr (h.before_login hphase)
    | _ => exact .inl rfl
  have hsession := hdoes.session
  refine {
    name := hdoes.name.trans h.name
    base := ?_
    token := ?_
    tallied := hdoes.tally ▸ h.tallied.note a
    progress := h.progress.step hdoes.phase
    asks := fun a' ha' => ?_ }
  · rw [hsession]
    exact h.base
  · rw [hsession, findSome?_concat, h.token]
    rcases hlogin with hnone | ⟨request, answer, rfl⟩
    · rw [hnone, Option.none_or, Option.or_none]
    · rw [List.findSome?_singleton]
      exact Option.or_none
  · have hbase : u'.session.base = u.session.base := by rw [hsession]
    have hold : a'.Asks plan u := by
      rcases List.mem_append.1 ha' with hmem | hmem
      · exact h.asks a' hmem
      · rw [List.mem_singleton.1 hmem]
        exact hdoes.asks
    refine hold.congr hdoes.name hbase fun hbrowse => ?_
    rw [hsession]
    rcases hlogin with hnone | ⟨request, answer, rfl⟩
    · rw [hnone, Option.none_or]
    · rcases List.mem_append.1 ha' with hmem | hmem
      · rw [List.mem_singleton.1 hmem] at hbrowse
        cases hbrowse
      · obtain rfl := List.mem_singleton.1 hmem
        cases a' with
        | browse request answer => rfl
        | _ => cases hbrowse

/-- Whoever is done has registered once, has logged in once if it was registered, and has done all
    its tasks. -/
theorem Life.counts (h : Life plan u₀ as u) (hdone : u.phase = .done) :
    as.countP Act.isRegister = 1 ∧
      as.countP Act.isLogin = (if as.any Act.isRegistered then 1 else 0) ∧
      as.countP Act.isTask = plan.iterations.toNat := by
  have hprogress := h.progress
  rw [hdone] at hprogress
  cases hprogress with
  | later _ hregister hlogin htasks _ => exact ⟨hregister, hlogin, htasks⟩

theorem any_eq_decide (p : Act → Bool) (as : List Act) : as.any p = decide (0 < as.countP p) := by
  rw [Bool.eq_iff_iff, decide_eq_true_iff, List.countP_pos_iff, List.any_eq_true]

/-- Acts of a kind that is split into two. -/
theorem countP_split {p q r : Act → Bool} (h : ∀ a, (p a).toNat + (q a).toNat = (r a).toNat)
    (as : List Act) : as.countP p + as.countP q = as.countP r := by
  induction as with
  | nil => rfl
  | cons a as ih =>
    have ha := h a
    rw [List.countP_cons, List.countP_cons, List.countP_cons]
    cases hp : p a <;> cases hq : q a <;> cases hr : r a <;> simp [hp, hq, hr] at ha ⊢ <;> omega

theorem Act.registers (a : Act) :
    a.isRefused.toNat + a.isRegistered.toNat = a.isRegister.toNat := by
  cases a with
  | register request answer => cases h : Act.isOk answer <;> simp [h]
  | _ => rfl

theorem Act.logins (a : Act) :
    a.isTokenless.toNat + a.token?.isSome.toNat = a.isLogin.toNat := by
  cases a with
  | login request answer =>
    cases h : (Session.concludeLogin answer).toOption <;> simp [h]
  | _ => rfl

theorem Act.browses (a : Act) :
    a.isBrowseOk.toNat + a.isBrowseFailed.toNat = a.isBrowse.toNat := by
  cases a with
  | browse request answer => cases h : Act.isOk answer <;> simp [h]
  | _ => rfl

theorem Act.tasks (a : Act) : a.isBrowse.toNat + a.isHealthCheck.toNat = a.isTask.toNat := by
  cases a <;> rfl

/-- Whoever is done was refused unless it was registered. -/
theorem Life.any_isRefused (h : Life plan u₀ as u) (hdone : u.phase = .done) :
    as.any Act.isRefused = !u.tally.registered := by
  obtain ⟨hregister, -, -⟩ := h.counts hdone
  have hsplit := countP_split Act.registers as
  rw [h.tallied.registered, any_eq_decide, any_eq_decide, ← decide_not]
  exact decide_eq_decide.2 (by omega)

/-- Whoever is done has failed to log in if it was registered and has no token. -/
theorem Life.any_isTokenless (h : Life plan u₀ as u) (hdone : u.phase = .done) :
    as.any Act.isTokenless = (u.tally.registered && !u.tally.loggedIn) := by
  obtain ⟨-, hlogin, -⟩ := h.counts hdone
  have hsplit := countP_split Act.logins as
  have hloggedIn : u.tally.loggedIn = decide (0 < as.countP fun a => a.token?.isSome) := by
    rw [h.tallied.loggedIn, ← any_eq_decide, Bool.eq_iff_iff, List.findSome?_isSome_iff,
      List.any_eq_true]
  rw [← h.tallied.registered] at hlogin
  rw [hloggedIn, any_eq_decide]
  cases hregistered : u.tally.registered with
  | true =>
    rw [hregistered, if_pos rfl] at hlogin
    rw [Bool.true_and, ← decide_not]
    exact decide_eq_decide.2 (by omega)
  | false =>
    rw [hregistered, if_neg Bool.false_ne_true] at hlogin
    rw [Bool.false_and]
    exact decide_eq_false (by omega)

end

end SyntheticLoad.Scenario

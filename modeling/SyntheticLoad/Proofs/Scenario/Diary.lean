import SyntheticLoad.Proofs.Http.Asking
import SyntheticLoad.Scenario.Run

/-!
# The diary of a scenario

What the users of a scenario do is written into a diary, one act for each turn, with the number
of the user, the request that is made and what comes back for it. A course of a crowd
(`Course`) is a way in which its users may take turns, with the diary that they leave; turns
are those of the crowd, in any order (`reaches_iff_exists_course`).

* A turn of a user is one of five acts (`User.Does`), and the network gets the request of the
  act and nothing else (`turn_of_deed`).
* Until a user is done, it can go on (`exists_turn`).
* A network that keeps a log of its requests has logged those of the diary (`Course.log`).
-/

namespace SyntheticLoad

open Http SyntheticLoad.Random

namespace Scenario

/-! ### Acts -/

/-- What a user does in a turn, with the request that it makes for that and what comes back. -/
inductive Act
  | register (request : Except ExchangeFault Request) (answer : Except ExchangeFault Response)
  | login (request : Except ExchangeFault Request) (answer : Except ExchangeFault Response)
  | browse (request : Except ExchangeFault Request) (answer : Except ExchangeFault Response)
  | checkHealth
  | rest

namespace Act

/-- The request of an act, if one can be made. -/
def request? : Act → Option Request
  | register request _ => request.toOption
  | login request _ => request.toOption
  | browse request _ => request.toOption
  | checkHealth => none
  | rest => none

/-- Whether a request was answered with 200. -/
def isOk : Except ExchangeFault Response → Bool
  | .error _ => false
  | .ok response => response.status == 200

@[simp] def isRegister : Act → Bool
  | register .. => true
  | _ => false

@[simp] def isLogin : Act → Bool
  | login .. => true
  | _ => false

@[simp] def isBrowse : Act → Bool
  | browse .. => true
  | _ => false

@[simp] def isHealthCheck : Act → Bool
  | checkHealth => true
  | _ => false

/-- Whether an act is one of a user's tasks. -/
@[simp] def isTask (a : Act) : Bool := a.isBrowse || a.isHealthCheck

/-- Whether an act is a registration that was answered with 200. -/
@[simp] def isRegistered : Act → Bool
  | register _ answer => isOk answer
  | _ => false

/-- Whether an act is a registration that was not. -/
@[simp] def isRefused (a : Act) : Bool := a.isRegister && !a.isRegistered

/-- The token that a login gives. -/
@[simp] def token? : Act → Option String
  | login _ answer => (Session.concludeLogin answer).toOption
  | _ => none

/-- Whether an act is a login that gives no token. -/
@[simp] def isTokenless (a : Act) : Bool := a.isLogin && a.token?.isNone

/-- Whether an act is a look at the projects that was answered with 200. -/
@[simp] def isBrowseOk : Act → Bool
  | browse _ answer => isOk answer
  | _ => false

/-- Whether an act is a look at the projects that was not. -/
@[simp] def isBrowseFailed (a : Act) : Bool := a.isBrowse && !a.isBrowseOk

end Act

/-- What the users have done, each act with the number of its user, in order. -/
abbrev Diary := List (Nat × Act)

/-- What one user has done. -/
def Diary.of (ds : Diary) (n : Nat) : List Act :=
  (ds.filter fun e => e.1 == n).map Prod.snd

/-- The requests that are made. -/
def Diary.requests (ds : Diary) : List Request := ds.filterMap fun e => e.2.request?

/-! ### Turns of a user -/

section

variable (plan : ScenarioPlan)

/-- A user does something, and goes on as another. -/
inductive User.Does (u : User) : Act → User → Prop
  | register {answer : Except ExchangeFault Response} : u.phase = .register →
    Hears (u.session.registerRequest u.name plan.password u.email) answer →
    User.Does u (.register (u.session.registerRequest u.name plan.password u.email) answer)
      (u.afterRegister plan (Session.concludeRegister answer)).user
  | login {answer : Except ExchangeFault Response} : u.phase = .login →
    Hears (u.session.loginRequest u.name plan.password) answer →
    User.Does u (.login (u.session.loginRequest u.name plan.password) answer)
      (u.afterLogin plan (u.session.afterLogin answer)).user
  | browse {left : Nat} {words : Keystream} {answer : Except ExchangeFault Response} :
    u.phase = .task (left + 1) → Task.draw.run u.words = (.browse, words) →
    Hears (u.session.getRequest (projectsPath u.name)) answer →
    User.Does u (.browse (u.session.getRequest (projectsPath u.name)) answer)
      ({ u with words := words, phase := User.Phase.afterTask left }.afterBrowse
        (Session.concludeGet answer)).user
  | checkHealth {left : Nat} {words : Keystream} :
    u.phase = .task (left + 1) → Task.draw.run u.words = (.checkHealth, words) →
    User.Does u .checkHealth
      { u with words := words, phase := User.Phase.afterTask left }.afterHealthCheck.user
  | rest {left : Nat} : u.phase = .rest left → User.Does u .rest (u.takeRest plan left).user

variable {ν : Type} (network : Network ν)

/-- What a user does next, and what the network makes of it. -/
def User.deed (u : User) (state : ν) : Option (Act × ν) :=
  let ask (act : Except ExchangeFault Request → Except ExchangeFault Response → Act)
      (request : Except ExchangeFault Request) : Act × ν :=
    let (answer, state) := network.ask state request
    (act request answer, state)
  match u.phase with
  | .register =>
    some (ask .register (u.session.registerRequest u.name plan.password u.email))
  | .login => some (ask .login (u.session.loginRequest u.name plan.password))
  | .task 0 => none
  | .task (_ + 1) =>
    match (Task.draw.run u.words).1 with
    | .browse => some (ask .browse (u.session.getRequest (projectsPath u.name)))
    | .checkHealth => some (.checkHealth, state)
  | .rest _ => some (.rest, state)
  | .done => none

/-- A deed is what a user does, and the network after it is that after the exchange. -/
theorem User.does_of_deed {u : User} {state after : ν} {a : Act}
    (h : u.deed plan network state = some (a, after)) :
    ∃ exchange turn, u.act plan = some exchange ∧
      exchange.run network state = (turn, after) ∧ u.Does plan a turn.user := by
  rw [deed] at h
  rw [act]
  cases hphase : u.phase with
  | register =>
    simp only [hphase] at h ⊢
    cases h
    refine ⟨_, _, rfl, ?_, .register hphase (network.hears_ask state _)⟩
    rw [Exchange.run_map, Session.register, Exchange.run_ofRequest]
  | login =>
    simp only [hphase] at h ⊢
    cases h
    refine ⟨_, _, rfl, ?_, .login hphase (network.hears_ask state _)⟩
    rw [Exchange.run_map, Session.login, Exchange.run_ofRequest]
  | task left =>
    cases left with
    | zero =>
      simp only [hphase] at h
      cases h
    | succ left =>
      simp only [hphase] at h ⊢
      -- The draw decides which of the two tasks it is.
      rcases hdraw : Task.draw.run u.words with ⟨_ | _, words⟩
      · simp only [hdraw] at h
        cases h
        refine ⟨_, _, rfl, ?_, .browse hphase hdraw (network.hears_ask state _)⟩
        rw [performTask, hdraw]
        simp only
        rw [Exchange.run_map, Session.get, Exchange.run_ofRequest]
      · simp only [hdraw] at h
        cases h
        refine ⟨_, _, rfl, ?_, .checkHealth hphase hdraw⟩
        rw [performTask, hdraw]
        rfl
  | rest left =>
    simp only [hphase] at h ⊢
    cases h
    exact ⟨_, _, rfl, rfl, .rest hphase⟩
  | done =>
    simp only [hphase] at h
    cases h

/-- With a log beside the network, the request of the deed is logged. -/
theorem User.deed_logged (u : User) (state : ν) (log : List Request) :
    u.deed plan network.logged (state, log) = (u.deed plan network state).map fun deed =>
      (deed.1, deed.2, log ++ deed.1.request?.toList) := by
  rw [deed, deed]
  cases hphase : u.phase with
  | register =>
    simp only [Network.ask_logged]
    rfl
  | login =>
    simp only [Network.ask_logged]
    rfl
  | task left =>
    cases left with
    | zero => rfl
    | succ left =>
      simp only
      cases (Task.draw.run u.words).1 with
      | browse =>
        simp only [Network.ask_logged]
        rfl
      | checkHealth => exact congrArg (fun l => some (_, _, l)) (List.append_nil log).symm
  | rest left => exact congrArg (fun l => some (_, _, l)) (List.append_nil log).symm
  | done => rfl

/-- Whoever is not done does something next. -/
theorem User.exists_deed {u : User} (hdone : u.phase ≠ .done) (htask : u.phase ≠ .task 0)
    (state : ν) : ∃ a after, u.deed plan network state = some (a, after) := by
  rw [deed]
  cases hphase : u.phase with
  | register => exact ⟨_, _, rfl⟩
  | login => exact ⟨_, _, rfl⟩
  | task left =>
    cases left with
    | zero => exact absurd hphase htask
    | succ left => cases (Task.draw.run u.words).1 <;> exact ⟨_, _, rfl⟩
  | rest left => exact ⟨_, _, rfl⟩
  | done => exact absurd hphase hdone

/-- Whoever does not do anything has no turn. -/
theorem User.act_of_deed_eq_none {u : User} {state : ν} (h : u.deed plan network state = none) :
    u.act plan = none := by
  rw [act]
  cases hphase : u.phase with
  | task left =>
    cases left with
    | zero => rfl
    | succ left =>
      obtain ⟨a, after, hdeed⟩ :=
        u.exists_deed plan network (by simp [hphase]) (by simp [hphase]) state
      rw [h] at hdeed
      cases hdeed
  | done => rfl
  | _ =>
    obtain ⟨a, after, hdeed⟩ :=
      u.exists_deed plan network (by simp [hphase]) (by simp [hphase]) state
    rw [h] at hdeed
    cases hdeed

/-! ### Courses -/

/-- The users of `start` may take turns that leave the diary and lead to a crowd. -/
inductive Course (start : Crowd ν) : Diary → Crowd ν → Prop
  | start : Course start [] start
  | turn {ds : Diary} {c d : Crowd ν} {n : Nat} {u : User} {a : Act} {after : ν} {t : User.Turn} :
    Course start ds c → c.users[n]? = some u → u.deed plan network c.network = some (a, after) →
    c.turn network plan n = some (d, t) → Course start (ds ++ [(n, a)]) d

variable {plan network} {start : Crowd ν}

theorem Crowd.turn_of_run {c : Crowd ν} {n : Nat} {u : User} {exchange : Exchange User.Turn}
    {t : User.Turn} {after : ν} (hu : c.users[n]? = some u) (hact : u.act plan = some exchange)
    (hrun : exchange.run network c.network = (t, after)) :
    c.turn network plan n = some (⟨c.users.set n t.user, after⟩, t) := by
  rw [turn, hu, Option.bind_eq_bind, Option.bind_some, hact, Option.bind_eq_bind, Option.bind_some,
    hrun]
  rfl

/-- In its turn a user does its deed, the others stay as they are, and the network is that after
    the deed. -/
theorem Crowd.turn_of_deed {c : Crowd ν} {n : Nat} {u : User} {a : Act} {after : ν}
    (hu : c.users[n]? = some u) (h : u.deed plan network c.network = some (a, after)) :
    ∃ t, c.turn network plan n = some (⟨c.users.set n t.user, after⟩, t) ∧
      u.Does plan a t.user := by
  obtain ⟨exchange, t, hact, hrun, hdoes⟩ := u.does_of_deed plan network h
  exact ⟨t, turn_of_run hu hact hrun, hdoes⟩

theorem Crowd.Reaches.append {c d e : Crowd ν} {ns ms : List Nat}
    (h : Crowd.Reaches network plan c ns d) (h' : Crowd.Reaches network plan d ms e) :
    Crowd.Reaches network plan c (ns ++ ms) e := by
  induction h with
  | nil => exact h'
  | cons hturn _ ih => exact .cons hturn (ih h')

namespace Course

variable {ds : Diary} {c : Crowd ν}

/-- A course goes on with any user who is not done. -/
theorem exists_turn (hc : Course plan network start ds c) {n : Nat} {u : User}
    (hu : c.users[n]? = some u) (hdone : u.phase ≠ .done) (htask : u.phase ≠ .task 0) :
    ∃ a d t, c.turn network plan n = some (d, t) ∧
      Course plan network start (ds ++ [(n, a)]) d := by
  obtain ⟨a, after, hdeed⟩ := u.exists_deed plan network hdone htask c.network
  obtain ⟨t, hturn, -⟩ := Crowd.turn_of_deed hu hdeed
  exact ⟨a, _, t, hturn, hc.turn hu hdeed hturn⟩

/-- What is kept by every deed holds after every course. -/
theorem induct {motive : Diary → Crowd ν → Prop} (hstart : motive [] start)
    (hturn : ∀ ds c n u a u' after, Course plan network start ds c → motive ds c →
      c.users[n]? = some u → u.deed plan network c.network = some (a, after) → u.Does plan a u' →
      motive (ds ++ [(n, a)]) ⟨c.users.set n u', after⟩)
    (hc : Course plan network start ds c) : motive ds c := by
  induction hc with
  | start => exact hstart
  | turn hc hu hdeed hd ih =>
    obtain ⟨t, hturn', hdoes⟩ := Crowd.turn_of_deed hu hdeed
    rw [hturn'] at hd
    cases hd
    exact hturn _ _ _ _ _ _ _ hc ih hu hdeed hdoes

/-- Courses are the ways of a crowd: the turns are those in the diary. -/
theorem reaches (hc : Course plan network start ds c) :
    Crowd.Reaches network plan start (ds.map Prod.fst) c := by
  induction hc with
  | start => exact .nil _
  | turn _ _ _ hd ih =>
    rw [List.map_append]
    exact ih.append (.cons hd (.nil _))

end Course

/-- Who has a turn does something in it. -/
theorem Crowd.exists_deed_of_turn {c d : Crowd ν} {n : Nat} {t : User.Turn}
    (h : c.turn network plan n = some (d, t)) : ∃ u a after, c.users[n]? = some u ∧
      u.deed plan network c.network = some (a, after) := by
  rw [turn, Option.bind_eq_bind, Option.bind_eq_some_iff] at h
  obtain ⟨u, hu, h⟩ := h
  rw [Option.bind_eq_bind, Option.bind_eq_some_iff] at h
  obtain ⟨exchange, hact, -⟩ := h
  cases hdeed : u.deed plan network c.network with
  | none =>
    rw [u.act_of_deed_eq_none plan network hdeed] at hact
    cases hact
  | some deed => exact ⟨u, deed.1, deed.2, hu, hdeed⟩

/-- Whatever turns the users of a crowd take, there is a diary of them. -/
theorem reaches_iff_exists_course {c : Crowd ν} {ns : List Nat} :
    Crowd.Reaches network plan start ns c ↔
      ∃ ds : Diary, ds.map Prod.fst = ns ∧ Course plan network start ds c := by
  refine ⟨fun h => ?_, ?_⟩
  · -- The induction is on the turns from any crowd that a course has led to.
    suffices hgen : ∀ {d e : Crowd ν} {ns : List Nat}, Crowd.Reaches network plan d ns e →
        ∀ {ds : Diary}, Course plan network start ds d → ∃ ds' : Diary, ds'.map Prod.fst = ns ∧
          Course plan network start (ds ++ ds') e by
      obtain ⟨ds, hns, hc⟩ := hgen h .start
      exact ⟨ds, hns, hc⟩
    intro d e ns h
    induction h with
    | nil d => exact fun {ds} hc => ⟨[], rfl, (List.append_nil ds).symm ▸ hc⟩
    | cons hturn _ ih =>
      intro ds hc
      obtain ⟨u, a, after, hu, hdeed⟩ := Crowd.exists_deed_of_turn hturn
      obtain ⟨ds', hns, hc'⟩ := ih (hc.turn hu hdeed hturn)
      rw [List.append_assoc, List.singleton_append] at hc'
      exact ⟨(_, a) :: ds', by rw [List.map_cons, hns], hc'⟩
  · rintro ⟨ds, rfl, hc⟩
    exact hc.reaches

theorem Diary.requests_concat (ds : Diary) (n : Nat) (a : Act) :
    Diary.requests (ds ++ [(n, a)]) = ds.requests ++ a.request?.toList := by
  rw [requests, requests, List.filterMap_append]
  cases h : a.request? <;> simp [h]

/-- With a log beside the network the users take the same course, and what is logged are the
    requests of the diary. -/
theorem Course.logged {users : List User} {state : ν} {c : Crowd ν} {ds : Diary}
    (hc : Course plan network ⟨users, state⟩ ds c) :
    Course plan network.logged ⟨users, state, []⟩ ds ⟨c.users, c.network, ds.requests⟩ := by
  induction hc with
  | start => exact .start
  | @turn ds c d n u a after t _ hu hdeed hturn ih =>
    have hlogged : u.deed plan network.logged (c.network, ds.requests) =
        some (a, after, ds.requests ++ a.request?.toList) := by
      rw [u.deed_logged, hdeed]
      rfl
    obtain ⟨exchange, t', hact, hrun', -⟩ := u.does_of_deed plan network.logged hlogged
    obtain ⟨exchange', t'', hact', hrun, -⟩ := u.does_of_deed plan network hdeed
    obtain rfl : exchange = exchange' := Option.some.inj (hact.symm.trans hact')
    -- Both networks give the same answer, so the user goes on in the same way.
    have hsame := exchange.run_logged network c.network ds.requests
    rw [hrun, hrun'] at hsame
    obtain rfl : t' = t'' := hsame
    rw [Crowd.turn_of_run hu hact hrun] at hturn
    cases hturn
    rw [Diary.requests_concat]
    exact ih.turn hu hlogged (Crowd.turn_of_run hu hact hrun')

end

end Scenario

end SyntheticLoad

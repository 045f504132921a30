import SyntheticLoad.Field.Letters
import SyntheticLoad.Random.Keystream
import SyntheticLoad.Scenario.Choice
import SyntheticLoad.Session.Client

/-!
# Users

A user registers an account under a name of its own, logs in if that went well, and
then performs its tasks with a rest between two of them, logged in or not. It does
one thing at a time (`User.act`), and everything it learns of the world is what the
network answers, so users can take turns in any order.
-/

namespace SyntheticLoad.Scenario

open Http SyntheticLoad.Random Time

/-- What a user does next. -/
inductive Phase
  | register
  | login
  /-- A task; so many are left with it. -/
  | task (left : Nat)
  /-- A rest before a task; so many tasks are left. -/
  | rest (left : Nat)
  | done
  deriving DecidableEq, Repr

/-- What has become of a user. -/
structure UserTally where
  registered : Bool
  loggedIn : Bool
  /-- Looks at the projects that were answered with 200. -/
  browseOk : UInt64
  /-- The others. -/
  browseFailed : UInt64
  healthChecks : UInt64
  deriving DecidableEq, Repr

/-- A user who has done nothing yet. -/
def UserTally.zero : UserTally := ⟨false, false, 0, 0, 0⟩

/-- A user. -/
structure User where
  name : String
  session : Session
  /-- Where its random words come from. -/
  words : Keystream
  phase : Phase
  tally : UserTally
  deriving Repr

/-- The path of a user's projects. -/
def projectsPath (name : String) : String := "/meta/projects/by-username/" ++ name

/-- The name of a user. -/
def drawName {σ : Type} [WordSource σ] : Draw σ String := do
  let letters ← Field.smallAlphanumeric 8
  pure ("loadtest_" ++ letters)

namespace User

/-- A user with a session, whose words start at a place of a keystream. -/
def enter (session : Session) (words : Keystream) : User :=
  let (name, words) := drawName.run words
  ⟨name, session, words, .register, .zero⟩

/-- The address for letters to a user. -/
def email (u : User) : String := u.name ++ "@example.com"

/-- The phase in which so many tasks are left. -/
def Phase.tasks : Nat → Phase
  | 0 => .done
  | n + 1 => .task (n + 1)

/-- The phase after a task. -/
def Phase.afterTask : Nat → Phase
  | 0 => .done
  | n + 1 => .rest (n + 1)

/-- What a user has done, how long it takes until it goes on, and what is reported. -/
structure Turn where
  user : User
  delay : Span
  notices : List Notice

/-- What comes of a registration. -/
def afterRegister (plan : ScenarioPlan) (u : User) : Except SessionError Unit → Turn
  | .ok () =>
    let tally := { u.tally with registered := true }
    ⟨{ u with phase := .login, tally := tally }, ⟨0⟩, [Session.registeredNotice u.name]⟩
  | .error e =>
    let notice : Notice := ⟨.warn, "Failed to register " ++ u.name ++ ": " ++ e.message⟩
    ⟨{ u with phase := Phase.tasks plan.iterations.toNat }, ⟨0⟩, [notice]⟩

/-- What comes of a login. -/
def afterLogin (plan : ScenarioPlan) (u : User) : Except SessionError Unit × Session → Turn
  | (.ok (), session) =>
    let tally := { u.tally with loggedIn := true }
    let phase := Phase.tasks plan.iterations.toNat
    ⟨{ u with session := session, phase := phase, tally := tally }, ⟨0⟩,
      [Session.loggedInNotice u.name]⟩
  | (.error e, session) =>
    let notice : Notice := ⟨.warn, "Failed to login " ++ u.name ++ ": " ++ e.message⟩
    ⟨{ u with session := session, phase := Phase.tasks plan.iterations.toNat }, ⟨0⟩, [notice]⟩

/-- What comes of a look at the projects. -/
def afterBrowse (u : User) (outcome : Outcome) : Turn :=
  if outcome = .status 200 then
    ⟨{ u with tally := { u.tally with browseOk := u.tally.browseOk + 1 } }, ⟨0⟩, []⟩
  else
    ⟨{ u with tally := { u.tally with browseFailed := u.tally.browseFailed + 1 } }, ⟨0⟩,
      [⟨.debug, "Browse projects failed for " ++ u.name ++ ": " ++ outcome.text⟩]⟩

/-- What comes of a look after the service. -/
def afterHealthCheck (u : User) : Turn :=
  ⟨{ u with tally := { u.tally with healthChecks := u.tally.healthChecks + 1 } }, ⟨0⟩, []⟩

/-- Performs a task, after which `left` are left. -/
def performTask (u : User) (left : Nat) : Exchange Turn :=
  let (task, words) := Task.draw.run u.words
  let u := { u with words := words, phase := Phase.afterTask left }
  match task with
  | .checkHealth => .nothing u.afterHealthCheck
  | .browse => (u.session.get (projectsPath u.name)).map u.afterBrowse

/-- Rests before a task; `left` are left. -/
def takeRest (plan : ScenarioPlan) (u : User) (left : Nat) : Turn :=
  let (delay, words) := (drawRest plan.shortest plan.longest).run u.words
  ⟨{ u with words := words, phase := Phase.tasks left }, delay, []⟩

/-- Does the next thing, if there is one. -/
def act (plan : ScenarioPlan) (u : User) : Option (Exchange Turn) :=
  match u.phase with
  | .register =>
    some ((u.session.register u.name plan.password u.email).map (u.afterRegister plan))
  | .login => some ((u.session.login u.name plan.password).map (u.afterLogin plan))
  | .task 0 => none
  | .task (left + 1) => some (u.performTask left)
  | .rest left => some (.nothing (u.takeRest plan left))
  | .done => none

end User

end SyntheticLoad.Scenario

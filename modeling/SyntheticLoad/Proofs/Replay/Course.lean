import SyntheticLoad.Proofs.Load.Course
import SyntheticLoad.Proofs.Replay.Payload
import SyntheticLoad.Proofs.Summary.Accounting

/-!
# The course of a replay

A course of a replay (`ReplayPlan.course`) has its calls, their answers and its pauses written
down as they happen. How long a wait for a span takes is left to a *timer*: the waits of a replay
are never longer than thirty years, but courses have timers of any sort, exact ones among them.

* A replay is the course with its own timer (`exists_run_of_course`).
* Each call is answered before the next one is made, and the pauses stand between them
  (`InTurn.events_eq`).
* An answer is what the sender replies at the time of its call, after the calls before it
  (`InTurn.gives`).
* The clock moves with waits and pauses only, so the time of a call is the sum of the waits and
  the pauses before it (`InTurn.starts_eq`).

All of it follows from what one call and one pause add to a course, by induction on the calls
that are left (`exists_courseLast`).
-/

namespace SyntheticLoad

open SyntheticLoad.Random Time

/-- The span that a call waits for. -/
def Delay.asked : Delay → Span
  | none => ⟨0⟩
  | others => ⟨0⟩
  | span length => length

/-- A call takes as long as a wait for its span. -/
theorem Delay.length_eq_waited (delay : Delay) : delay.length = delay.asked.waited := by
  cases delay <;> rfl

/-- Whether every call of a sender comes to an outcome. -/
def Sender.Answers {δ : Type} (d : Sender δ) : Prop :=
  ∀ time envelope σ, ∃ outcome, (d.send time envelope σ).1.ending = .answered outcome

/-- The answer to a call of a replay. -/
structure ReplayAnswer where
  /-- The span that the call waits for. -/
  wait : Span
  outcome : Outcome
  deriving DecidableEq, Repr

/-- The answer in a reply, unless the call breaks down. -/
def Reply.answer? (reply : Reply) : Option ReplayAnswer :=
  match reply.ending with
  | .answered outcome => some ⟨reply.delay.asked, outcome⟩
  | .broken _ => none

namespace Sender

variable {δ : Type} (d : Sender δ) (payload : Envelope)

/-- The sender after calls with an envelope at these times, each settled before the next. -/
def afterCalls (σ : δ) (times : List Span) : δ :=
  times.foldl (fun σ time => d.settle (d.send time payload σ).2) σ

/-- Calls with an envelope at these times have these answers: each is what the sender replies
    after the calls before it. -/
def Gives (σ : δ) (times : List Span) (answers : List ReplayAnswer) : Prop :=
  ∀ k time, times[k]? = some time →
    (d.send time payload (d.afterCalls payload σ (times.take k))).1.answer? = answers[k]?

variable {d payload}

theorem Gives.nil (σ : δ) : d.Gives payload σ [] [] := fun _ _ htime => nomatch htime

/-- One more call in front. -/
theorem Gives.cons {σ : δ} {time : Span} {a : ReplayAnswer} {times : List Span}
    {answers : List ReplayAnswer} (hfirst : (d.send time payload σ).1.answer? = some a)
    (h : d.Gives payload (d.settle (d.send time payload σ).2) times answers) :
    d.Gives payload σ (time :: times) (a :: answers) := by
  intro k t ht
  cases k with
  | zero =>
    obtain rfl : time = t := Option.some.inj ht
    exact hfirst
  | succ k => exact h k t ht

end Sender

/-- What happens in a replay. -/
inductive ReplayEvent
  /-- The sender is called with an envelope. -/
  | call (envelope : Envelope)
  /-- The call is answered. -/
  | answer (answer : ReplayAnswer)
  /-- Nothing is done for a span of time. -/
  | pause (length : Span)
  deriving Repr

/-- A course under way. -/
structure ReplayCourse (δ : Type) where
  /-- The records so far. -/
  summary : Summary
  /-- The state of the sender. -/
  sender : δ
  /-- The time since the start. -/
  now : Span
  /-- When each call was made, in order. -/
  starts : List Span
  /-- What has happened, in order. -/
  events : List ReplayEvent

namespace ReplayPlan

section

variable {δ : Type} (p : ReplayPlan) (timer : Span → Span) (d : Sender δ) (payload : Envelope)

/-- The events of a pause: none if it has no length. -/
def pauseEvents : List ReplayEvent := if p.pause = ⟨0⟩ then [] else [.pause p.pause]

/-- How long a pause takes, in nanoseconds. -/
def pauseNanos : Nat := if p.pause = ⟨0⟩ then 0 else (timer p.pause).nanos

/-- One call and its answer. -/
def courseCall (c : ReplayCourse δ) : Except ReplayFailure (ReplayCourse δ) :=
  let (reply, state) := d.send c.now payload c.sender
  match reply.ending with
  | .broken message => .error (.broken message)
  | .answered outcome =>
    .ok {
      summary := c.summary.record outcome
      sender := d.settle state
      now := ⟨c.now.nanos + (timer reply.delay.asked).nanos⟩
      starts := c.starts ++ [c.now]
      events := c.events ++ [.call payload, .answer ⟨reply.delay.asked, outcome⟩] }

/-- The pause between two calls. -/
def coursePause (c : ReplayCourse δ) : ReplayCourse δ :=
  { c with now := ⟨c.now.nanos + p.pauseNanos timer⟩, events := c.events ++ p.pauseEvents }

/-- The last `n` calls of a course. -/
def courseLast : Nat → ReplayCourse δ → Except ReplayFailure (ReplayCourse δ)
  | 0, c => .ok c
  | n + 1, c => do
    let c ← courseCall timer d payload c
    if n = 0 then pure c else courseLast n (p.coursePause timer c)

/-- A whole course, from an instant and a state of the sender. -/
def course (now : Instant) (σ : δ) : Except ReplayFailure (ReplayCourse δ) :=
  p.courseLast timer d payload p.count.toNat ⟨.start p.count now, σ, ⟨0⟩, [], []⟩

end

/-! ### Calls and pauses in turn -/

/-- The events of a call and its answer. -/
def answerEvents (payload : Envelope) (a : ReplayAnswer) : List ReplayEvent :=
  [.call payload, .answer a]

/-- The events of calls that are answered one after the other, with the pauses in between. -/
def turnEvents (p : ReplayPlan) (payload : Envelope) (answers : List ReplayAnswer) :
    List ReplayEvent :=
  ((answers.map (answerEvents payload)).intersperse p.pauseEvents).flatten

/-- How long the waits of answers take together, in nanoseconds. -/
def waitNanos (timer : Span → Span) (answers : List ReplayAnswer) : Nat :=
  (answers.map fun a => (timer a.wait).nanos).sum

/-- When calls are made that start at a time and follow each other. -/
def turnStarts (p : ReplayPlan) (timer : Span → Span) (time : Nat) (answers : List ReplayAnswer) :
    List Span :=
  (List.range answers.length).map fun k =>
    ⟨time + (waitNanos timer (answers.take k) + k * p.pauseNanos timer)⟩

section

variable (p : ReplayPlan) (payload : Envelope) (timer : Span → Span)

theorem turnEvents_cons (a : ReplayAnswer) {answers : List ReplayAnswer} (h : answers ≠ []) :
    p.turnEvents payload (a :: answers) =
      answerEvents payload a ++ (p.pauseEvents ++ p.turnEvents payload answers) := by
  cases answers with
  | nil => exact absurd rfl h
  | cons b answers => rfl

theorem turnEvents_singleton (a : ReplayAnswer) :
    p.turnEvents payload [a] = answerEvents payload a := List.append_nil _

theorem waitNanos_cons (a : ReplayAnswer) (answers : List ReplayAnswer) :
    waitNanos timer (a :: answers) = (timer a.wait).nanos + waitNanos timer answers := rfl

theorem turnStarts_cons (time : Nat) (a : ReplayAnswer) (answers : List ReplayAnswer) :
    p.turnStarts timer time (a :: answers) =
      ⟨time⟩ :: p.turnStarts timer (time + (timer a.wait).nanos + p.pauseNanos timer) answers := by
  rw [turnStarts, List.length_cons, List.range_succ_eq_map, List.map_cons, List.map_map]
  refine congrArg₂ List.cons ?_ (List.map_congr_left fun k _ => ?_)
  · rw [List.take_zero, Nat.zero_mul]
    rfl
  · simp only [Function.comp, List.take_succ_cons, waitNanos_cons, Nat.succ_mul]
    congr 1
    omega

end

section

variable {δ : Type} (p : ReplayPlan) (timer : Span → Span) {d : Sender δ} (payload : Envelope)

/-- What a call that is answered adds to a course. -/
theorem exists_courseCall (hd : d.Answers) (c : ReplayCourse δ) :
    ∃ a, (d.send c.now payload c.sender).1.answer? = some a ∧
      courseCall timer d payload c =
        .ok ⟨c.summary.record a.outcome, d.settle (d.send c.now payload c.sender).2,
          ⟨c.now.nanos + (timer a.wait).nanos⟩, c.starts ++ [c.now],
          c.events ++ answerEvents payload a⟩ := by
  obtain ⟨outcome, houtcome⟩ := hd c.now payload c.sender
  refine ⟨⟨(d.send c.now payload c.sender).1.delay.asked, outcome⟩, ?_, ?_⟩
  · simp only [Reply.answer?, houtcome]
  · rw [courseCall]
    simp only [houtcome]
    rfl

/-- What the last calls of a course add to it, if all of them are answered. -/
theorem exists_courseLast (hd : d.Answers) (n : Nat) (c : ReplayCourse δ) :
    ∃ answers, answers.length = n ∧
      d.Gives payload c.sender (p.turnStarts timer c.now.nanos answers) answers ∧
      p.courseLast timer d payload n c =
        .ok ⟨c.summary.tally (answers.map ReplayAnswer.outcome),
          d.afterCalls payload c.sender (p.turnStarts timer c.now.nanos answers),
          ⟨c.now.nanos + (waitNanos timer answers + (n - 1) * p.pauseNanos timer)⟩,
          c.starts ++ p.turnStarts timer c.now.nanos answers,
          c.events ++ p.turnEvents payload answers⟩ := by
  induction n generalizing c with
  | zero =>
    refine ⟨[], rfl, .nil _, ?_⟩
    rw [courseLast, turnStarts, turnEvents, Nat.zero_sub, Nat.zero_mul]
    simp [waitNanos, Summary.tally, Sender.afterCalls]
  | succ n ih =>
    obtain ⟨a, hanswer, hcall⟩ := exists_courseCall timer payload hd c
    rw [courseLast, hcall]
    by_cases hlast : n = 0
    · -- There is no pause behind the last call.
      subst hlast
      refine ⟨[a], rfl, ?_, ?_⟩
      · rw [turnStarts_cons]
        exact .cons hanswer (.nil _)
      · rw [turnEvents_singleton, turnStarts_cons, waitNanos_cons, Nat.sub_self, Nat.zero_mul]
        rfl
    · obtain ⟨answers, hlength, hgives, hrest⟩ := ih (p.coursePause timer
        ⟨c.summary.record a.outcome, d.settle (d.send c.now payload c.sender).2,
          ⟨c.now.nanos + (timer a.wait).nanos⟩, c.starts ++ [c.now],
          c.events ++ answerEvents payload a⟩)
      have hne : answers ≠ [] := fun hnil => hlast (by rw [← hlength, hnil, List.length_nil])
      refine ⟨a :: answers, by rw [List.length_cons, hlength], ?_, ?_⟩
      · rw [turnStarts_cons]
        exact .cons hanswer hgives
      show (if n = 0 then _ else _) = _
      rw [if_neg hlast, hrest, turnEvents_cons p payload a hne, turnStarts_cons, waitNanos_cons]
      have hpauses : p.pauseNanos timer + (n - 1) * p.pauseNanos timer =
          n * p.pauseNanos timer := by
        rw [Nat.add_comm, ← Nat.succ_mul, Nat.succ_eq_add_one, Nat.sub_add_cancel (by omega)]
      have hnow : c.now.nanos + (timer a.wait).nanos + p.pauseNanos timer +
            (waitNanos timer answers + (n - 1) * p.pauseNanos timer) =
          c.now.nanos + ((timer a.wait).nanos + waitNanos timer answers +
            n * p.pauseNanos timer) := by
        omega
      simp only [coursePause, hnow, List.append_assoc, List.singleton_append,
        Nat.add_sub_cancel]
      rfl

/-- What holds of a course whose calls have been answered by a sender. -/
structure InTurn (d : Sender δ) (now : Instant) (σ : δ) (answers : List ReplayAnswer)
    (c : ReplayCourse δ) : Prop where
  /-- There are as many answers as the plan says. -/
  length_eq : answers.length = p.count.toNat
  /-- An answer is what the sender replies when the call is made, after the calls before it. -/
  gives : d.Gives payload σ c.starts answers
  sender_eq : c.sender = d.afterCalls payload σ c.starts
  /-- Calls and answers take turns, with a pause between an answer and the next call. -/
  events_eq : c.events = p.turnEvents payload answers
  /-- A call is made when the waits and the pauses before it are over. -/
  starts_eq : c.starts = (List.range p.count.toNat).map fun k =>
    ⟨waitNanos timer (answers.take k) + k * p.pauseNanos timer⟩
  now_eq : c.now = ⟨waitNanos timer answers + (p.count.toNat - 1) * p.pauseNanos timer⟩
  summary_eq : c.summary = (Summary.start p.count now).tally (answers.map ReplayAnswer.outcome)
  total_eq : c.summary.total = p.count

/-- A course whose calls are answered comes to its end. -/
theorem exists_course (hd : d.Answers) (now : Instant) (σ : δ) :
    ∃ answers c, p.course timer d payload now σ = .ok c ∧
      p.InTurn timer payload d now σ answers c := by
  obtain ⟨answers, hlength, hgives, hcourse⟩ := p.exists_courseLast timer payload hd
    p.count.toNat ⟨.start p.count now, σ, ⟨0⟩, [], []⟩
  refine ⟨answers, _, hcourse, hlength, hgives, rfl, List.nil_append _, ?_, ?_, rfl,
    (Summary.tally_frame _ _).1⟩
  · rw [← hlength]
    simp only [turnStarts, Nat.zero_add, List.nil_append]
  · simp only [Nat.zero_add]

/-- With an exact timer, a pause takes as long as the plan says. -/
theorem pauseNanos_exact : p.pauseNanos (fun s => s) = p.pause.nanos := by
  rw [pauseNanos]
  split
  · next hzero => rw [hzero]
  · rfl

end

/-! ### Replays as courses -/

section

variable {δ : Type} (p : ReplayPlan) {d : Sender δ} {payload : Envelope}

/-- The timer of a replay takes no time for a pause without a length. -/
theorem pauseNanos_waited : p.pauseNanos Span.waited = p.pause.waited.nanos := by
  rw [pauseNanos]
  split
  · next hzero => rw [hzero]; rfl
  · rfl

/-- A replay and a course that have come to the same place. -/
structure Keeps (r : ReplayRun δ) (c : ReplayCourse δ) : Prop where
  summary : r.summary = c.summary
  sender : r.sender = c.sender
  now : r.now = c.now
  starts : r.starts.reverse = c.starts

theorem Keeps.call {r : ReplayRun δ} {c c' : ReplayCourse δ} (h : Keeps r c) (number : Nat)
    (hcall : courseCall Span.waited d payload c = .ok c') :
    ∃ r', p.sendOnce d payload number r = .ok r' ∧ Keeps r' c' := by
  rw [courseCall] at hcall
  rw [sendOnce, h.now, h.sender]
  simp only at hcall ⊢
  cases hending : (d.send c.now payload c.sender).1.ending with
  | broken failure =>
    rw [hending] at hcall
    cases hcall
  | answered outcome =>
    rw [hending] at hcall
    cases hcall
    refine ⟨_, rfl, ⟨by rw [h.summary], rfl, by rw [Delay.length_eq_waited], ?_⟩⟩
    rw [List.reverse_cons, h.starts]

theorem Keeps.pause {r : ReplayRun δ} {c : ReplayCourse δ} (h : Keeps r c) :
    Keeps (p.rest r) (p.coursePause Span.waited c) :=
  ⟨h.summary, h.sender, by rw [rest, coursePause, h.now, pauseNanos_waited], h.starts⟩

theorem Keeps.last {r : ReplayRun δ} {c c' : ReplayCourse δ} (h : Keeps r c) (n : Nat)
    (hlast : p.courseLast Span.waited d payload n c = .ok c') :
    ∃ r', p.sendLast d payload n r = .ok r' ∧ Keeps r' c' := by
  induction n generalizing r c with
  | zero =>
    cases hlast
    exact ⟨r, rfl, h⟩
  | succ n ih =>
    rw [courseLast] at hlast
    cases hcall : courseCall Span.waited d payload c with
    | error failure =>
      rw [hcall] at hlast
      cases hlast
    | ok c₁ =>
      obtain ⟨r₁, hsend, hkeeps⟩ := h.call p (p.count.toNat - n) hcall
      rw [hcall] at hlast
      rw [sendLast, hsend]
      simp only [bind, Except.bind] at hlast ⊢
      split at hlast
      · next hzero =>
        cases hlast
        exact ⟨r₁, by rw [if_pos hzero]; rfl, hkeeps⟩
      · next hne =>
        rw [if_neg hne]
        exact ih (hkeeps.pause p) hlast

/-- A replay is the course with its own timer. -/
theorem exists_run_of_course {seed : UInt64} {σ : δ} {c : ReplayCourse δ} (clock : Span → Instant)
    (hpayload : p.payload seed (clock ⟨0⟩) = .ok payload)
    (hcourse : p.course Span.waited d payload (clock ⟨0⟩) σ = .ok c) :
    ∃ result, p.run seed d clock σ = .ok result ∧
      result.summary = c.summary.finish c.now (clock c.now) ∧ result.sender = c.sender ∧
      result.length = c.now ∧ result.starts = c.starts := by
  have hstart : Keeps
      (⟨.start p.count (clock ⟨0⟩), σ, ⟨0⟩, [], [payloadNotice payload]⟩ : ReplayRun δ)
      ⟨.start p.count (clock ⟨0⟩), σ, ⟨0⟩, [], []⟩ := ⟨rfl, rfl, rfl, rfl⟩
  obtain ⟨r, hlast, hkeeps⟩ := hstart.last p p.count.toNat hcourse
  rw [p.run_eq clock hpayload, hlast]
  exact ⟨_, rfl, by rw [hkeeps.summary, hkeeps.now], hkeeps.sender, hkeeps.now, hkeeps.starts⟩

end

/-- A replay has an envelope to send. -/
theorem exists_payload (p : ReplayPlan) (seed : UInt64) (now : Instant) :
    ∃ payload, p.payload seed now = .ok payload := by
  obtain ⟨first, hfirst⟩ := exists_unitEnvelope p.selector seed 0 now
  exact ⟨p.rename first, by rw [p.payload_eq, hfirst]; rfl⟩

end ReplayPlan

theorem Sender.Answers.logged {δ : Type} {d : Sender δ} (hd : d.Answers) : d.logged.Answers :=
  fun time envelope σ => hd time envelope σ.1

/-- **A replay sends in turn.** Let every call of a sender come to an outcome, after whatever
    wait. Then there is an envelope, and whatever a timer makes of waits and pauses,

    * a course of the replay calls the sender with the envelope as often as the plan says, each
      time after the call before has been answered and one pause has been made, unless the pause
      has no length; each answer is what the sender replies when the call is made, after the
      calls before it, and the summary of the course is the tally of the answers;
    * with an exact timer, a call is made when the waits before it and as many pauses are over;
    * if nothing is to be sent, nothing happens, and no time passes;
    * a replay is the course with its own timer, and its sender is handed the envelope, as
      often as the plan says, and nothing else. -/
theorem replay_sends_in_turn {δ : Type} (p : ReplayPlan) (seed : UInt64) (d : Sender δ)
    (hd : d.Answers) (clock : Span → Instant) (σ : δ) :
    ∃ payload, p.payload seed (clock ⟨0⟩) = .ok payload ∧
      (∀ timer : Span → Span, ∃ answers c,
        p.course timer d payload (clock ⟨0⟩) σ = .ok c ∧
          p.InTurn timer payload d (clock ⟨0⟩) σ answers c) ∧
      (∃ answers c, p.course (fun s => s) d payload (clock ⟨0⟩) σ = .ok c ∧
        p.InTurn (fun s => s) payload d (clock ⟨0⟩) σ answers c ∧
        c.starts = (List.range p.count.toNat).map fun k =>
          ⟨((answers.take k).map fun a => a.wait.nanos).sum + k * p.pause.nanos⟩) ∧
      (p.count = 0 → ∀ timer : Span → Span, p.course timer d payload (clock ⟨0⟩) σ =
        .ok ⟨.start 0 (clock ⟨0⟩), σ, ⟨0⟩, [], []⟩) ∧
      (∃ c result, p.course Span.waited d payload (clock ⟨0⟩) σ = .ok c ∧
        p.run seed d clock σ = .ok result ∧
        result.summary = c.summary.finish c.now (clock c.now) ∧ result.sender = c.sender ∧
        result.length = c.now ∧ result.starts = c.starts) ∧
      ∃ result, p.run seed d.logged clock (σ, []) = .ok result ∧
        result.sender.2 = List.replicate p.count.toNat payload := by
  obtain ⟨payload, hpayload⟩ := p.exists_payload seed (clock ⟨0⟩)
  refine ⟨payload, hpayload, fun timer => p.exists_course timer payload hd _ σ, ?_,
    fun hzero timer => ?_, ?_, ?_⟩
  · obtain ⟨answers, c, hcourse, hturn⟩ := p.exists_course (fun s => s) payload hd (clock ⟨0⟩) σ
    refine ⟨answers, c, hcourse, hturn, ?_⟩
    rw [hturn.starts_eq, p.pauseNanos_exact]
    rfl
  · rw [ReplayPlan.course, hzero]
    rfl
  · obtain ⟨answers, c, hcourse, -⟩ := p.exists_course Span.waited payload hd (clock ⟨0⟩) σ
    obtain ⟨result, hresult⟩ := p.exists_run_of_course clock hpayload hcourse
    exact ⟨c, result, hcourse, hresult⟩
  · obtain ⟨answers, c, hcourse, -⟩ :=
      p.exists_course Span.waited payload hd.logged (clock ⟨0⟩) (σ, [])
    obtain ⟨result, hrun, -⟩ := p.exists_run_of_course clock hpayload hcourse
    exact ⟨result, hrun, p.run_logged clock hpayload hrun⟩

/-- Three sends to a sender that takes ten nanoseconds longer each time, five apart. -/
theorem replay_sends_in_turn_of_three :
    let p : ReplayPlan := ⟨3, ⟨5⟩, .mixed, some 7, some "test"⟩
    let now : Instant := ⟨1700000000, 0⟩
    let slow : Sender Nat := ⟨fun _ _ calls =>
      (⟨.span ⟨10 * calls⟩, .answered (.status 200), []⟩, calls + 1), id⟩
    slow.Answers ∧ ∃ payload answers c,
      p.payload 7 now = .ok payload ∧ p.course (fun s => s) slow payload now 0 = .ok c ∧
        answers.length = 3 ∧ c.events = p.turnEvents payload answers ∧
        c.starts = [⟨0⟩, ⟨5⟩, ⟨20⟩] ∧
        c.summary.statusCounts = [(200, 3)] := by
  intro p now slow
  have hslow : slow.Answers := fun _ _ _ => ⟨.status 200, rfl⟩
  obtain ⟨payload, hpayload, -, ⟨answers, c, hcourse, hturn, -⟩, -⟩ :=
    replay_sends_in_turn p 7 slow hslow (fun _ => now) 0
  have hc : p.course (fun s => s) slow payload now 0 = .ok c := hcourse
  refine ⟨hslow, payload, answers, c, hpayload, hcourse, hturn.length_eq, hturn.events_eq, ?_, ?_⟩
  · cases hc
    rfl
  · cases hc
    rfl

end SyntheticLoad

import SyntheticLoad.Proofs.Scenario.Totals

/-!
# Timed scenarios

A timed scenario lets the user go on whose rest is over first. So its turns are those of a course
of the crowd (`Timed`), and as there is a next user until all are done, and turns are bounded,
it comes to its end (`exists_run`).
-/

namespace SyntheticLoad

open Http SyntheticLoad.Random Time

namespace Scenario

/-! ### The next user -/

/-- The next user is not done. -/
theorem nextUser_eq_some {users : List User} {slots : List Slot} {n : Nat} {slot : Slot}
    (h : nextUser users slots = some (n, slot)) :
    ∃ u, users[n]? = some u ∧ u.phase ≠ .done := by
  induction users generalizing slots n slot with
  | nil => cases h
  | cons u users ih =>
    cases slots with
    | nil => cases h
    | cons s slots =>
      -- The next of the later users, whose number is counted from here.
      have hlater : ∀ m s', (nextUser users slots).map (fun next => (next.1 + 1, next.2)) =
          some (m, s') → ∃ v, (u :: users)[m]? = some v ∧ v.phase ≠ .done := by
        intro m s' hmap
        obtain ⟨⟨k, r⟩, hk, heq⟩ := Option.map_eq_some_iff.1 hmap
        cases heq
        exact ih hk
      rw [nextUser] at h
      simp only at h
      split at h
      · exact hlater n slot h
      · next hdone =>
        split at h
        · next m other hother =>
          split at h
          · cases h
            exact hlater n slot hother
          · cases h
            exact ⟨u, rfl, hdone⟩
        · cases h
          exact ⟨u, rfl, hdone⟩

/-- There is a next user until all are done. -/
theorem isDone_of_nextUser {users : List User} {slots : List Slot}
    (hlength : slots.length = users.length) (h : nextUser users slots = none) :
    ∀ u ∈ users, u.phase = .done := by
  induction users generalizing slots with
  | nil => exact fun _ hu => absurd hu List.not_mem_nil
  | cons u users ih =>
    cases slots with
    | nil => cases hlength
    | cons s slots =>
      rw [nextUser] at h
      simp only at h
      split at h
      · next hdone =>
        have hrest := ih (Nat.succ.inj hlength) (Option.map_eq_none_iff.1 h)
        exact List.forall_mem_cons.2 ⟨hdone, hrest⟩
      · split at h
        · split at h <;> cases h
        · cases h

/-! ### Turns in time -/

section

variable {ν : Type} {network : Network ν} {plan : ScenarioPlan} {start : Crowd ν}

/-- What has happened in a timed scenario is a course of its crowd, and each user has a slot. -/
structure Timed (network : Network ν) (plan : ScenarioPlan) (start : Crowd ν) (ds : Diary)
    (t : TimedCrowd ν) : Prop where
  course : Course plan network start ds t.crowd
  slots : t.slots.length = t.crowd.users.length

variable {session : Session} {words : List Keystream} {state : ν} {ds : Diary} {t : TimedCrowd ν}

/-- A turn is taken in the course of the crowd. -/
theorem Timed.advance (h : Timed network plan start ds t) {t' : TimedCrowd ν}
    (hadvance : t.advance network plan = some t') :
    ∃ n a, Timed network plan start (ds ++ [(n, a)]) t' := by
  rw [TimedCrowd.advance, Option.bind_eq_bind, Option.bind_eq_some_iff] at hadvance
  obtain ⟨⟨n, slot⟩, -, hadvance⟩ := hadvance
  simp only [Option.bind_eq_bind] at hadvance
  obtain ⟨⟨d, turn⟩, hturn, hadvance⟩ := Option.bind_eq_some_iff.1 hadvance
  obtain ⟨u, a, after, hu, hdeed⟩ := Crowd.exists_deed_of_turn hturn
  have hcourse := h.course.turn hu hdeed hturn
  obtain ⟨turn', hturn', -⟩ := Crowd.turn_of_deed hu hdeed
  rw [hturn] at hturn'
  cases hturn'
  cases hadvance
  exact ⟨n, a, hcourse, by rw [List.length_set, List.length_set, h.slots]⟩

/-- Until all users are done there is a next turn. -/
theorem Timed.isDone_of_advance (h : Timed network plan (.enter session words state) ds t)
    (htoken : session.token = none) (hadvance : t.advance network plan = none) :
    t.crowd.isDone = true := by
  cases hnext : nextUser t.crowd.users t.slots with
  | none =>
    exact List.all_eq_true.2 fun u hu => decide_eq_true (isDone_of_nextUser h.slots hnext u hu)
  | some next =>
    obtain ⟨u, hu, hdone⟩ := nextUser_eq_some hnext
    obtain ⟨w, -, hlife⟩ := (h.course.lives htoken).lives next.1 u hu
    obtain ⟨a, d, turn, hturn, -⟩ := h.course.exists_turn hu hdone hlife.progress.phase_ne
    rw [TimedCrowd.advance, hnext, Option.bind_eq_bind, Option.bind_some] at hadvance
    simp only [hturn] at hadvance
    cases hadvance

/-- After as many turns as a scenario may have, all users are done. -/
theorem Timed.proceed (htoken : session.token = none) (hwords : words.length = plan.users) (n : Nat)
    {ds : Diary} {t : TimedCrowd ν} (h : Timed network plan (.enter session words state) ds t)
    (hturns : plan.turnBound ≤ ds.length + n) :
    ∃ ds', Timed network plan (.enter session words state) ds' (t.proceed network plan n) ∧
      (t.proceed network plan n).crowd.isDone = true := by
  induction n generalizing ds t with
  | zero =>
    refine ⟨ds, h, ?_⟩
    cases hdone : t.crowd.isDone with
    | true => exact hdone
    -- Someone who is not done would have another turn than those there may be.
    | false =>
      have hlt := ((h.course.lives htoken).length_le hwords).2 hdone
      omega
  | succ n ih =>
    rw [TimedCrowd.proceed]
    cases hadvance : t.advance network plan with
    | none => exact ⟨ds, h, h.isDone_of_advance htoken hadvance⟩
    | some t' =>
      obtain ⟨m, a, hnext⟩ := h.advance hadvance
      exact ih hnext (by rw [List.length_append, List.length_singleton]; omega)

end

end Scenario

open Scenario

/-- A scenario at an address comes to its end in a course of its crowd. -/
theorem ScenarioPlan.exists_run {ν : Type} (plan : ScenarioPlan) (network : Network ν)
    {words : List Keystream} (hwords : words.length = plan.users) (state : ν) {session : Session}
    (htoken : session.token = none) (hsession : Session.connect plan.address = .ok session) :
    ∃ ds c res, Scenario.Course plan network (Crowd.enter session words state) ds c ∧
      c.isDone = true ∧ plan.run network words state = .ok res ∧ res.network = c.network ∧
      res.summary = { ScenarioSummary.ofTallies (c.users.map User.tally) with
        durationMs := res.summary.durationMs } := by
  have htake : words.take plan.users = words := List.take_of_length_le (Nat.le_of_eq hwords)
  cases hrun : plan.run network words state with
  | error e =>
    rw [ScenarioPlan.run, hsession] at hrun
    cases hrun
  | ok res =>
    rw [ScenarioPlan.run, hsession, htake] at hrun
    have hstart : Timed network plan (Crowd.enter session words state) []
        ⟨Crowd.enter session words state,
          (Crowd.enter session words state).users.map fun _ => ⟨⟨0⟩, 0⟩, ⟨0⟩,
          [plan.startNotice]⟩ := ⟨.start, List.length_map _⟩
    obtain ⟨ds, hend, hdone⟩ :=
      hstart.proceed htoken hwords plan.turnBound (Nat.le_add_left _ _)
    cases hrun
    exact ⟨ds, _, _, hend.course, hdone, rfl, rfl, rfl⟩

end SyntheticLoad

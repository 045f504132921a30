import Mathlib
import SyntheticLoad.Proofs.Scenario.Life

/-!
# The totals of a scenario

In every course of a crowd each user has a life of its own, told by its part of the diary
(`Course.lives`), so what is true of all lives adds up, in whatever order users take turns:

* a diary is no longer than the scenario may have turns, and shorter while a user is not done
  (`Lives.length_le`);
* once all users are done, the summary shows the users with a failed registration and those
  with a failed login, of which nobody is both, and counts the acts of the diary
  (`Lives.summary_eq`).
-/

namespace SyntheticLoad.Scenario

open Http SyntheticLoad.Random

/-! ### Parts of a diary -/

section

variable (ds : Diary) (n m : Nat) (a : Act) (p : Act → Bool)

theorem Diary.of_concat :
    Diary.of (ds ++ [(m, a)]) n = if m = n then ds.of n ++ [a] else ds.of n := by
  by_cases hm : m = n
  · simp [of, hm]
  · simp [of, hm]

/-- The acts of all users together are those of the diary. -/
theorem Diary.sum_countP {ds : Diary} {N : Nat} (h : ∀ e ∈ ds, e.1 < N) :
    ∑ n ∈ Finset.range N, (ds.of n).countP p = ds.countP fun e => p e.2 := by
  induction ds using List.reverseRecOn with
  | nil => simp [of]
  | append_singleton ds e ih =>
    -- The last entry counts for its own user only.
    have hcount : ∀ n, (Diary.of (ds ++ [e]) n).countP p =
        (Diary.of ds n).countP p + if e.1 = n then (if p e.2 then 1 else 0) else 0 := by
      intro n
      rw [of_concat]
      split
      · rw [countP_concat]
      · rfl
    have hlast : e.1 ∈ Finset.range N := by simpa using h e (by simp)
    simp only [hcount, Finset.sum_add_distrib, Finset.sum_ite_eq, if_pos hlast]
    rw [ih fun e' he' => h e' (List.mem_append_left _ he'), List.countP_append,
      List.countP_singleton]

end

/-! ### The lives of all users -/

/-- What holds of a crowd that was entered with `words`: each user has lived its part of the
    diary. -/
structure Lives {ν : Type} (plan : ScenarioPlan) (session : Session) (words : List Keystream)
    (ds : Diary) (c : Crowd ν) : Prop where
  length : c.users.length = words.length
  numbers : ∀ e ∈ ds, e.1 < words.length
  lives : ∀ n u, c.users[n]? = some u →
    ∃ w, words[n]? = some w ∧ Life plan (.enter session w) (Diary.of ds n) u

section

variable {ν : Type} {network : Network ν} {plan : ScenarioPlan} {session : Session}
  {words : List Keystream} {state : ν} {ds : Diary} {c : Crowd ν}

theorem Lives.enter (plan : ScenarioPlan) (htoken : session.token = none) (words : List Keystream)
    (state : ν) : Lives plan session words [] (Crowd.enter session words state) where
  length := List.length_map _
  numbers := fun _ he => absurd he List.not_mem_nil
  lives := fun n u hu => by
    rw [Crowd.enter, List.getElem?_map] at hu
    obtain ⟨w, hw, rfl⟩ := Option.map_eq_some_iff.1 hu
    exact ⟨w, hw, .enter plan htoken w⟩

/-- One user lives on, and the others do not notice. -/
theorem Lives.does (h : Lives plan session words ds c) {n : Nat} {u u' : User} {a : Act}
    (hu : c.users[n]? = some u) (hdoes : u.Does plan a u') (after : ν) :
    Lives plan session words (ds ++ [(n, a)]) ⟨c.users.set n u', after⟩ where
  length := by rw [List.length_set, h.length]
  numbers := fun e he => by
    rcases List.mem_append.1 he with hmem | hmem
    · exact h.numbers e hmem
    · rw [List.mem_singleton.1 hmem, ← h.length]
      exact (List.getElem?_eq_some_iff.1 hu).1
  lives := fun m v hv => by
    rw [Diary.of_concat]
    by_cases hm : n = m
    · subst hm
      have hlt := (List.getElem?_eq_some_iff.1 hu).1
      rw [List.getElem?_set_self hlt] at hv
      obtain ⟨w, hw, hlife⟩ := h.lives n u hu
      rw [if_pos rfl, ← Option.some.inj hv]
      exact ⟨w, hw, hlife.does hdoes⟩
    · rw [List.getElem?_set_ne hm] at hv
      rw [if_neg hm]
      exact h.lives m v hv

/-- In every course each user has a life of its own. -/
theorem Course.lives (htoken : session.token = none)
    (hc : Course plan network (Crowd.enter session words state) ds c) :
    Lives plan session words ds c :=
  hc.induct (.enter plan htoken words state)
    fun _ _ _ _ _ _ after _ ih hu _ hdoes => ih.does hu hdoes after

namespace Lives

/-- Each user has acted for its part of the turns, and less while it is not done. -/
theorem length_of_le (h : Lives plan session words ds c) {n : Nat} {u : User}
    (hu : c.users[n]? = some u) :
    (Diary.of ds n).length ≤ 2 * plan.iterations.toNat + 2 ∧
      (u.phase ≠ .done → (Diary.of ds n).length < 2 * plan.iterations.toNat + 2) := by
  obtain ⟨w, -, hlife⟩ := h.lives n u hu
  have hle := hlife.progress.length_le
  refine ⟨by omega, fun hdone => ?_⟩
  have hpos := hlife.progress.turnsLeft_pos hdone
  omega

theorem length_eq (h : Lives plan session words ds c) :
    ds.length = ∑ n ∈ Finset.range words.length, (Diary.of ds n).length := by
  have hsum := Diary.sum_countP (fun _ => true) h.numbers
  simp only [List.countP_true] at hsum
  exact hsum.symm

/-- A scenario has no more turns than it may have, and fewer while there is a user who is not
    done. -/
theorem length_le (h : Lives plan session words ds c) (hwords : words.length = plan.users) :
    ds.length ≤ plan.turnBound ∧ (c.isDone = false → ds.length < plan.turnBound) := by
  have hbound : ∀ n ∈ Finset.range words.length,
      (Diary.of ds n).length ≤ 2 * plan.iterations.toNat + 2 := fun n hn =>
    (h.length_of_le (List.getElem?_eq_getElem (h.length ▸ Finset.mem_range.1 hn))).1
  have hturns : plan.turnBound =
      ∑ _n ∈ Finset.range words.length, (2 * plan.iterations.toNat + 2) := by
    rw [Finset.sum_const, Finset.card_range, smul_eq_mul, hwords, ScenarioPlan.turnBound]
  rw [h.length_eq, hturns]
  refine ⟨Finset.sum_le_sum hbound, fun hdone => ?_⟩
  obtain ⟨u, hmem, hphase⟩ := List.all_eq_false.1 hdone
  obtain ⟨n, hn, hu⟩ := List.mem_iff_getElem.1 hmem
  have hlt := (h.length_of_le (List.getElem?_eq_some_iff.2 ⟨hn, hu⟩)).2 (by simpa using hphase)
  exact Finset.sum_lt_sum hbound ⟨n, Finset.mem_range.2 (h.length ▸ hn), hlt⟩

end Lives

end

/-! ### The summary -/

/-- How many of so many users have done something of a kind. -/
def Diary.usersWith (ds : Diary) (p : Act → Bool) (users : Nat) : Nat :=
  ((Finset.range users).filter fun n => (Diary.of ds n).any p).card

/-- What a summary shows of a diary, without the time. -/
def Diary.summary (ds : Diary) (users : Nat) : ScenarioSummary where
  users := users
  registrationsFailed := UInt64.ofNat (ds.usersWith Act.isRefused users)
  loginsFailed := UInt64.ofNat (ds.usersWith Act.isTokenless users)
  usersAborted := 0
  browseOk := UInt64.ofNat (ds.countP fun e => e.2.isBrowseOk)
  browseFailed := UInt64.ofNat (ds.countP fun e => e.2.isBrowseFailed)
  healthChecks := UInt64.ofNat (ds.countP fun e => e.2.isHealthCheck)
  durationMs := 0

section

variable {f : ScenarioSummary → UInt64} {g : UserTally → UInt64}

/-- A part of the summary to which every user adds is the sum of what they add. -/
theorem foldl_record (hf : ∀ s t, f (s.record t) = f s + g t) {users : List User} {k : Nat → Nat}
    (hk : ∀ n u, users[n]? = some u → g u.tally = UInt64.ofNat (k n)) (s : ScenarioSummary) :
    f ((users.map User.tally).foldl ScenarioSummary.record s) =
      f s + UInt64.ofNat (∑ n ∈ Finset.range users.length, k n) := by
  induction users using List.reverseRecOn with
  | nil => exact (UInt64.add_zero _).symm
  | append_singleton users u ih =>
    have hlast := hk users.length u List.getElem?_concat_length
    have hinit := ih fun n v hv => hk n v (by
      rw [List.getElem?_append_left (List.getElem?_eq_some_iff.1 hv).1]
      exact hv)
    rw [List.map_append, List.foldl_append, List.map_singleton, List.foldl_cons, List.foldl_nil, hf,
      hinit, hlast, List.length_append, List.length_singleton, Finset.sum_range_succ,
      UInt64.ofNat_add, UInt64.add_assoc]

/-- A part of the summary that users leave as it is. -/
theorem foldl_record_const {β : Type} {f : ScenarioSummary → β}
    (hf : ∀ s t, f (s.record t) = f s) (ts : List UserTally) (s : ScenarioSummary) :
    f (ts.foldl ScenarioSummary.record s) = f s := by
  induction ts generalizing s with
  | nil => rfl
  | cons t ts ih => rw [List.foldl_cons, ih, hf]

/-- A user adds to each part of the summary at most once for its failure, and for each task. -/
theorem record_eq (s : ScenarioSummary) (t : UserTally) : s.record t = { s with
    registrationsFailed := s.registrationsFailed + UInt64.ofNat (!t.registered).toNat
    loginsFailed := s.loginsFailed + UInt64.ofNat (t.registered && !t.loggedIn).toNat
    browseOk := s.browseOk + t.browseOk
    browseFailed := s.browseFailed + t.browseFailed
    healthChecks := s.healthChecks + t.healthChecks } := by
  rw [ScenarioSummary.record, ScenarioSummary.countFailure]
  cases t.registered <;> cases t.loggedIn <;> simp

/-- It does not matter which of two users is counted first. -/
theorem record_record (s : ScenarioSummary) (t t' : UserTally) :
    (s.record t).record t' = (s.record t').record t := by
  simp only [record_eq]
  congr 1 <;> ac_rfl

/-- Users may be counted in any order. -/
theorem ofTallies_perm {ts ts' : List UserTally} (h : ts.Perm ts') :
    ScenarioSummary.ofTallies ts = .ofTallies ts' := by
  rw [ScenarioSummary.ofTallies, ScenarioSummary.ofTallies, h.length_eq]
  exact h.foldl_eq' (fun t _ t' _ s => record_record s t t') _

/-- A part of the summary of some users. -/
theorem ofTallies_eq (hf : ∀ s t, f (s.record t) = f s + g t) (hstart : ∀ n, f (.start n) = 0)
    (users : List User) {k : Nat → Nat}
    (hk : ∀ n u, users[n]? = some u → g u.tally = UInt64.ofNat (k n)) :
    f (.ofTallies (users.map User.tally)) =
      UInt64.ofNat (∑ n ∈ Finset.range users.length, k n) := by
  rw [ScenarioSummary.ofTallies, foldl_record hf hk, hstart, UInt64.zero_add]

end

attribute [ext] ScenarioSummary

/-- The users who have done something of a kind, counted one by one. -/
theorem Diary.usersWith_eq_sum (ds : Diary) (p : Act → Bool) (users : Nat) :
    ds.usersWith p users = ∑ n ∈ Finset.range users, ((Diary.of ds n).any p).toNat := by
  rw [usersWith, Finset.card_filter]
  exact Finset.sum_congr rfl fun n _ => by cases (Diary.of ds n).any p <;> rfl

theorem Diary.usersWith_le (ds : Diary) (p : Act → Bool) (users : Nat) :
    ds.usersWith p users ≤ users := by
  have hle := Finset.card_filter_le (Finset.range users) fun n => (Diary.of ds n).any p
  rwa [Finset.card_range] at hle

namespace Lives

variable {ν : Type} {plan : ScenarioPlan} {session : Session} {words : List Keystream}
  {ds : Diary} {c : Crowd ν}

theorem life_of_isDone (h : Lives plan session words ds c) (hdone : c.isDone = true) {n : Nat}
    {u : User} (hu : c.users[n]? = some u) :
    ∃ w, Life plan (.enter session w) (Diary.of ds n) u ∧ u.phase = .done := by
  obtain ⟨w, -, hlife⟩ := h.lives n u hu
  exact ⟨w, hlife, of_decide_eq_true (List.all_eq_true.1 hdone u (List.mem_of_getElem? hu))⟩

/-- Once all users are done, the summary is that of the diary. -/
theorem summary_eq (h : Lives plan session words ds c) (hdone : c.isDone = true) :
    ScenarioSummary.ofTallies (c.users.map User.tally) = ds.summary words.length := by
  -- The parts of the summary to which users add, then those that they leave as they are.
  have hrefused := ofTallies_eq (f := ScenarioSummary.registrationsFailed)
    (g := fun t => UInt64.ofNat (!t.registered).toNat) (fun s t => by rw [record_eq])
    (fun _ => rfl) c.users
    (k := fun n => ((Diary.of ds n).any Act.isRefused).toNat) fun n u hu => by
      obtain ⟨w, hlife, hphase⟩ := h.life_of_isDone hdone hu
      rw [hlife.any_isRefused hphase]
  have htokenless := ofTallies_eq (f := ScenarioSummary.loginsFailed)
    (g := fun t => UInt64.ofNat (t.registered && !t.loggedIn).toNat)
    (fun s t => by rw [record_eq]) (fun _ => rfl) c.users
    (k := fun n => ((Diary.of ds n).any Act.isTokenless).toNat) fun n u hu => by
      obtain ⟨w, hlife, hphase⟩ := h.life_of_isDone hdone hu
      rw [hlife.any_isTokenless hphase]
  have hbrowseOk := ofTallies_eq (f := ScenarioSummary.browseOk) (g := UserTally.browseOk)
    (fun s t => by rw [record_eq]) (fun _ => rfl) c.users
    fun n u hu => (h.lives n u hu).elim fun w hlife => hlife.2.tallied.browseOk
  have hbrowseFailed := ofTallies_eq (f := ScenarioSummary.browseFailed)
    (g := UserTally.browseFailed) (fun s t => by rw [record_eq])
    (fun _ => rfl) c.users
    fun n u hu => (h.lives n u hu).elim fun w hlife => hlife.2.tallied.browseFailed
  have hhealthChecks := ofTallies_eq (f := ScenarioSummary.healthChecks)
    (g := UserTally.healthChecks) (fun s t => by rw [record_eq])
    (fun _ => rfl) c.users
    fun n u hu => (h.lives n u hu).elim fun w hlife => hlife.2.tallied.healthChecks
  have hconst : ∀ {β : Type} {f : ScenarioSummary → β}, (∀ s t, f (s.record t) = f s) →
      f (.ofTallies (c.users.map User.tally)) = f (.start words.length) := by
    intro β f hf
    rw [ScenarioSummary.ofTallies, foldl_record_const hf, List.length_map, h.length]
  rw [h.length] at hrefused htokenless hbrowseOk hbrowseFailed hhealthChecks
  rw [Diary.sum_countP _ h.numbers] at hbrowseOk hbrowseFailed hhealthChecks
  rw [← Diary.usersWith_eq_sum] at hrefused htokenless
  exact ScenarioSummary.ext (hconst fun s t => by rw [record_eq])
    hrefused htokenless (hconst fun s t => by rw [record_eq])
    hbrowseOk hbrowseFailed hhealthChecks
    (hconst fun s t => by rw [record_eq])

/-- Once all users are done, each of them has registered, logged in if it was registered, and done
    its tasks. -/
theorem counts_of_isDone (h : Lives plan session words ds c) (hdone : c.isDone = true) {n : Nat}
    (hn : n < words.length) : (Diary.of ds n).countP Act.isRegister = 1 ∧
      (Diary.of ds n).countP Act.isLogin =
        (if (Diary.of ds n).any Act.isRegistered then 1 else 0) ∧
      (Diary.of ds n).countP Act.isTask = plan.iterations.toNat := by
  obtain ⟨w, hlife, hphase⟩ := h.life_of_isDone hdone (List.getElem?_eq_getElem (h.length ▸ hn))
  exact hlife.counts hphase

/-- What each user does so many times, all users together do that many times as often. -/
theorem countP_eq_mul (h : Lives plan session words ds c) {p : Act → Bool} {k : Nat}
    (hk : ∀ n < words.length, (Diary.of ds n).countP p = k) :
    ds.countP (fun e => p e.2) = words.length * k := by
  rw [← Diary.sum_countP _ h.numbers, Finset.sum_congr rfl fun n hn => hk n (Finset.mem_range.1 hn),
    Finset.sum_const, Finset.card_range, smul_eq_mul]

/-- Nobody has both failed to register and failed to log in. -/
theorem failures_le (h : Lives plan session words ds c) (hdone : c.isDone = true) :
    ds.usersWith Act.isRefused words.length + ds.usersWith Act.isTokenless words.length ≤
      words.length := by
  have hone : ∀ n ∈ Finset.range words.length, (Diary.of ds n).any Act.isRefused = true →
      ¬(Diary.of ds n).any Act.isTokenless = true := by
    intro n hn hrefused
    have hlt : n < c.users.length := h.length ▸ Finset.mem_range.1 hn
    obtain ⟨w, hlife, hphase⟩ := h.life_of_isDone hdone (List.getElem?_eq_getElem hlt)
    rw [hlife.any_isRefused hphase, Bool.not_eq_true'] at hrefused
    rw [hlife.any_isTokenless hphase, hrefused, Bool.false_and]
    exact Bool.false_ne_true
  have hunion := Finset.card_le_card <|
    Finset.union_subset (Finset.filter_subset (fun n => (Diary.of ds n).any Act.isRefused = true) _)
      (Finset.filter_subset (fun n => (Diary.of ds n).any Act.isTokenless = true)
        (Finset.range words.length))
  rwa [Finset.card_union_of_disjoint (Finset.disjoint_filter.2 hone), Finset.card_range] at hunion

end Lives

end SyntheticLoad.Scenario

import SyntheticLoad.Proofs.Load.Account

/-!
# A run by turns follows a course

In a load run a sender says how each call ends, and the keeper and the units take turns.
Whatever the sender says, what happens in the run is a course (`LoadRun.Follows`): the
queue, the calls put aside and the calls that wait are together the units of the pool
that can go on, each open call ends as the sender said when it was made, and the sender
is in the state that these calls have brought it to (`Sender.after`).

The floor is never given to someone who has nothing to do (`ready_handOver`), hence a run
goes on until the keeper leaves. As no more than four things happen to a unit, it does so
within the events that it is given (`exists_run`).
-/

namespace SyntheticLoad

open SyntheticLoad.Random Time

/-! ### What a sender says -/

namespace Sender

variable {δ : Type} (d : Sender δ)

/-- The sender after something that has happened. -/
def react (σ : δ) : Happening → δ
  | .sent call => (d.send call.time call.envelope σ).2
  | .ended _ _ => d.settle σ
  | _ => σ

/-- How the sender has a call end, if one is made. -/
def promise (σ : δ) : Happening → Option (Nat × Ending)
  | .sent call => some (call.unit, (d.send call.time call.envelope σ).1.ending)
  | _ => none

/-- The sender after a history. -/
def after (σ : δ) (hs : History) : δ := hs.foldl d.react σ

/-- How the sender has the calls of a history end, in the order of the calls. -/
def promised : δ → History → List (Nat × Ending)
  | _, [] => []
  | σ, h :: hs => (d.promise σ h).toList ++ promised (d.react σ h) hs

/-- Every call of a history that ended did so as the sender said when it was made. -/
def Obeyed (σ : δ) (hs : History) : Prop := ∀ e ∈ hs.endings, e ∈ d.promised σ hs

theorem after_concat (σ : δ) (hs : History) (h : Happening) :
    d.after σ (hs ++ [h]) = d.react (d.after σ hs) h := List.foldl_concat ..

theorem promised_concat (σ : δ) (hs : History) (h : Happening) :
    d.promised σ (hs ++ [h]) = d.promised σ hs ++ (d.promise (d.after σ hs) h).toList := by
  induction hs generalizing σ with
  | nil => exact List.append_nil _
  | cons g hs ih =>
    rw [List.cons_append, promised, ih, promised, List.append_assoc]
    rfl

/-- A sender says something of every call, and of nothing else. -/
theorem promised_units (σ : δ) (hs : History) :
    (d.promised σ hs).map Prod.fst = hs.calls.map Call.unit := by
  induction hs using List.reverseRecOn with
  | nil => rfl
  | append_singleton hs h ih =>
    rw [promised_concat, History.calls_concat, List.map_append, List.map_append, ih]
    cases h <;> rfl

/-- What goes on without a call ending leaves a sender obeyed. -/
theorem Obeyed.concat {d : Sender δ} {σ : δ} {hs : History} (ho : d.Obeyed σ hs) {h : Happening}
    (hended : ∀ e, h.ended? = some e → e ∈ d.promised σ hs) : d.Obeyed σ (hs ++ [h]) := by
  intro e he
  rw [History.endings_concat] at he
  rw [promised_concat]
  refine List.mem_append_left _ ?_
  rcases List.mem_append.1 he with he | he
  · exact ho e he
  · exact hended e (Option.mem_toList.1 he)

end Sender

/-- In a complete course that obeys a sender every call ends once, as the sender said. -/
theorem Complete.endings_promised {plan : LoadPlan} {seed : UInt64} {clock : Span → Instant}
    {hs : History} {p : Pool} (h : Complete plan seed clock hs p) {δ : Type} {d : Sender δ} {σ : δ}
    (hobeyed : d.Obeyed σ hs) : hs.endings.Perm (d.promised σ hs) :=
  h.endings_perm (d.promised_units σ hs) hobeyed

/-! ### What can go on -/

/-- The unit that is to make its call. -/
def NextStep.call? : NextStep → Option Nat
  | call unit => some unit
  | finish _ => none

/-- The call that is to end. -/
def NextStep.finish? : NextStep → Option OpenCall
  | call _ => none
  | finish c => some c

namespace LoadRun

variable {δ : Type}

/-- The units that are to make their calls, in the order of the queue. -/
def callers (r : LoadRun δ) : List Nat := r.queue.filterMap NextStep.call?

/-- The calls that are open: those in the queue, those put aside, and those that wait. -/
def openCalls (r : LoadRun δ) : List OpenCall :=
  r.queue.filterMap NextStep.finish? ++ (r.aside ++ r.waiting)

/-- What has happened in a run is a course that its sender has been obeyed in, and what can
    go on in it are the units in its pool. -/
structure Follows (s : LoadSetting δ) (σ : δ) (hs : History) (r : LoadRun δ) : Prop where
  course : Course s.plan s.seed s.clock hs r.pool
  obeyed : s.sender.Obeyed σ hs
  sender : r.sender = s.sender.after σ hs
  started : r.callers.Perm r.pool.started
  sending : (r.openCalls.map OpenCall.unit).Perm r.pool.sending
  /-- Each open call ends as the sender said when it was made. -/
  replies : ∀ c ∈ r.openCalls, (c.unit, c.reply.ending) ∈ s.sender.promised σ hs
  /-- No call is put aside when it is the keeper's turn. -/
  aside : r.floor = .keeper → r.aside = []

/-- Someone has the floor who has something to do. -/
def Ready (plan : LoadPlan) (r : LoadRun δ) : Prop :=
  match r.floor with
  | .keeper => r.keeperActs plan
  | .units _ => r.queue ≠ []

section

variable {s : LoadSetting δ} {σ : δ} {hs : History} {r r' : LoadRun δ}

theorem follows_start (sender : δ) : Follows s sender [] (s.start sender) where
  course := .start
  obeyed := fun _ he => absurd he List.not_mem_nil
  sender := rfl
  started := List.Perm.refl _
  sending := List.Perm.refl _
  replies := fun _ hc => absurd hc List.not_mem_nil
  aside := fun _ => rfl

/-- A run in which the same units can go on follows the same course. -/
theorem Follows.congr (hf : Follows s σ hs r) (hpool : r'.pool = r.pool)
    (hsender : r'.sender = r.sender) (hcallers : r'.callers = r.callers)
    (hopen : r'.openCalls.Perm r.openCalls) (haside : r'.floor = .keeper → r'.aside = []) :
    Follows s σ hs r' where
  course := hpool ▸ hf.course
  obeyed := hf.obeyed
  sender := hsender.trans hf.sender
  started := by
    rw [hcallers, hpool]
    exact hf.started
  sending := by
    rw [hpool]
    exact (hopen.map OpenCall.unit).trans hf.sending
  replies := fun c hc => hf.replies c (hopen.mem_iff.1 hc)
  aside := haside

/-! ### The floor changes hands -/

theorem filterMap_call?_finish (cs : List OpenCall) :
    (cs.map NextStep.finish).filterMap NextStep.call? = [] := by
  induction cs with
  | nil => rfl
  | cons c cs ih => exact ih

theorem filterMap_finish?_finish (cs : List OpenCall) :
    (cs.map NextStep.finish).filterMap NextStep.finish? = cs := by
  induction cs with
  | nil => rfl
  | cons c cs ih => exact congrArg (c :: ·) ih

theorem Follows.endTurn (hf : Follows s σ hs r) : Follows s σ hs r.endTurn := by
  refine hf.congr rfl rfl ?_ ?_ fun _ => rfl
  · rw [callers, LoadRun.endTurn, List.filterMap_append, filterMap_call?_finish, List.append_nil]
    rfl
  · rw [openCalls, LoadRun.endTurn, List.filterMap_append, filterMap_finish?_finish,
      List.nil_append, List.append_assoc]
    exact List.Perm.refl _

theorem Follows.passTime (hf : Follows s σ hs r) : Follows s σ hs r.passTime := by
  unfold LoadRun.passTime
  split
  · exact hf
  · rw [List.partition_eq_filter_filter]
    refine hf.congr rfl rfl ?_ ?_ hf.aside
    · rw [callers, List.filterMap_append, filterMap_call?_finish, List.append_nil]
      rfl
    · rw [openCalls, openCalls, List.filterMap_append, filterMap_finish?_finish,
        List.append_assoc]
      -- The calls that are due move to the queue; those that are not stay.
      refine List.Perm.append_left _ ((List.perm_append_comm_assoc _ _ _).trans ?_)
      exact (List.filter_append_perm _ r.waiting).append_left r.aside

theorem Follows.beginTurn (hf : Follows s σ hs r) : Follows s σ hs r.beginTurn := by
  have hunits : ∀ {r : LoadRun δ}, Follows s σ hs r →
      Follows s σ hs { r with floor := .units turnLength } := fun hf =>
    hf.congr rfl rfl rfl (List.Perm.refl _) fun hkeeper => Floor.noConfusion hkeeper
  unfold LoadRun.beginTurn
  split
  · exact hunits hf.passTime
  · exact hunits hf

theorem Follows.handOver (hf : Follows s σ hs r) : Follows s σ hs (r.handOver s.plan) := by
  unfold LoadRun.handOver
  split
  · split
    · split
      · exact hf.endTurn
      · exact hf.endTurn.beginTurn
    · exact hf
  · split
    · exact hf.endTurn
    · exact hf.endTurn.beginTurn
  · split
    · exact hf
    · exact hf.beginTurn

/-- The first wait that is over is that of some call. -/
theorem exists_due {cs : List OpenCall} (hcs : cs ≠ []) :
    ∃ due, earliestDue cs = some due ∧ ∃ c ∈ cs, c.due = due := by
  induction cs with
  | nil => exact absurd rfl hcs
  | cons c cs ih =>
    rw [earliestDue]
    cases hlater : earliestDue cs with
    | none => exact ⟨c.due, rfl, c, List.mem_cons_self, rfl⟩
    | some due =>
      dsimp only
      split
      · have hne : cs ≠ [] := by
          rintro rfl
          cases hlater
        obtain ⟨due', hdue', c', hc', hc'due⟩ := ih hne
        rw [hlater] at hdue'
        cases hdue'
        exact ⟨due, rfl, c', List.mem_cons_of_mem _ hc', hc'due⟩
      · exact ⟨c.due, rfl, c, List.mem_cons_self, rfl⟩

/-- When calls wait, time passes until one of them can go on. -/
theorem queue_passTime (hwaiting : r.waiting ≠ []) : r.passTime.queue ≠ [] := by
  obtain ⟨due, hdue, c, hc, hcdue⟩ := exists_due hwaiting
  simp only [LoadRun.passTime, hdue, List.partition_eq_filter_filter]
  intro hempty
  have hnone := List.map_eq_nil_iff.1 (List.append_eq_nil_iff.1 hempty).2
  exact List.filter_eq_nil_iff.1 hnone c hc (decide_eq_true hcdue)

/-- If the keeper has nothing to do, but may not leave, some unit can go on. -/
theorem Follows.ready_beginTurn (hf : Follows s σ hs r) (hworkers : 0 < s.plan.concurrency)
    (hleave : r.pool.keeper s.plan ≠ .leave) (hidle : ¬r.keeperActs s.plan)
    (haside : r.aside = []) : r.beginTurn.Ready s.plan := by
  rw [keeperActs, Bool.or_eq_true, not_or, Bool.not_eq_true', Bool.not_eq_false,
    List.isEmpty_iff] at hidle
  have hsize := hf.course.account.size_pos hworkers hleave hidle.1
  show r.beginTurn.queue ≠ []
  unfold LoadRun.beginTurn
  split
  · next hempty =>
    -- If no call waited either, the pool would be empty.
    refine queue_passTime fun hwaiting => ?_
    rw [List.isEmpty_iff] at hempty
    have hstarted : r.pool.started.length = 0 := by
      rw [← hf.started.length_eq, callers, hempty]
      rfl
    have hsending : r.pool.sending.length = 0 := by
      rw [← hf.sending.length_eq, openCalls, hempty, haside, hwaiting]
      rfl
    rw [Pool.size, hstarted, hsending, hidle.2] at hsize
    exact Nat.lt_irrefl 0 hsize
  · next hqueue => exact fun hempty => hqueue (List.isEmpty_iff.2 hempty)

/-- The floor is given to someone who has something to do. -/
theorem Follows.ready_handOver (hf : Follows s σ hs r) (hworkers : 0 < s.plan.concurrency)
    (hleave : r.pool.keeper s.plan ≠ .leave) : (r.handOver s.plan).Ready s.plan := by
  unfold LoadRun.handOver
  split
  · next hfloor =>
    split
    · split
      · next hacts => exact hacts
      · next hidle => exact hf.endTurn.ready_beginTurn hworkers hleave hidle rfl
    · next hqueue =>
      rw [Ready, hfloor]
      exact fun hempty => hqueue (List.isEmpty_iff.2 hempty)
  · split
    · next hacts => exact hacts
    · next hidle => exact hf.endTurn.ready_beginTurn hworkers hleave hidle rfl
  · next hfloor =>
    split
    · next hacts =>
      rw [Ready, hfloor]
      exact hacts
    · next hidle => exact hf.ready_beginTurn hworkers hleave hidle (hf.aside hfloor)

/-! ### Events -/

/-- A unit's call goes as the sender says. -/
theorem reply_eq_send {unit : Nat} {now : Span} {envelope : Envelope} {σ : δ}
    (henv : unitEnvelope s.plan.selector s.seed unit (s.clock now) = .ok envelope) :
    (s.reply unit now σ).1.ending = (s.sender.send now envelope σ).1.ending ∧
      (s.reply unit now σ).2 = (s.sender.send now envelope σ).2 := by
  unfold LoadSetting.reply
  rw [henv]
  dsimp only
  split <;> exact ⟨rfl, rfl⟩

/-- The call that a unit opens. -/
def opened (s : LoadSetting δ) (r : LoadRun δ) (unit : Nat) : OpenCall :=
  let reply := (s.reply unit r.now r.sender).1
  ⟨unit, ⟨r.now.nanos + reply.delay.length.nanos⟩, reply⟩

/-- However long a call waits, it is one more open call. -/
theorem applyCall_spec (s : LoadSetting δ) {r : LoadRun δ} {unit : Nat} {rest : List NextStep}
    (hqueue : r.queue = .call unit :: rest) :
    (s.applyCall r unit).sender = (s.reply unit r.now r.sender).2 ∧
      (s.applyCall r unit).callers = rest.filterMap NextStep.call? ∧
      (s.applyCall r unit).openCalls.Perm (opened s r unit :: r.openCalls) ∧
      ((s.applyCall r unit).floor = .keeper → r.floor = .keeper) := by
  have hspend : r.floor.spend = .keeper → r.floor = .keeper := by
    cases r.floor with
    | keeper => exact fun _ => rfl
    | units left => exact fun h => Floor.noConfusion h
  have hopen : r.openCalls = rest.filterMap NextStep.finish? ++ (r.aside ++ r.waiting) := by
    rw [openCalls, hqueue]
    rfl
  unfold LoadSetting.applyCall
  dsimp only
  rw [hopen, hqueue]
  -- It is put aside, ends at once, or waits.
  split
  · exact ⟨rfl, rfl, List.perm_middle, hspend⟩
  · split
    · exact ⟨rfl, rfl, List.Perm.refl _, fun h => h⟩
    · refine ⟨rfl, rfl, ?_, hspend⟩
      simp only [openCalls, List.drop_succ_cons, List.drop_zero, ← List.append_assoc]
      exact List.perm_append_singleton _ _

/-- The keeper starts a unit, which joins the queue. -/
theorem Follows.spawn (hf : Follows s σ hs r) (hcan : r.pool.canStart s.plan) :
    Follows s σ (hs ++ [.spawned r.pool.next])
      (s.apply r { r.pool with
        next := r.pool.next + 1
        started := r.pool.started ++ [r.pool.next] } .start) := by
  have hopen : (r.queue ++ [NextStep.call r.pool.next]).filterMap NextStep.finish? =
      r.queue.filterMap NextStep.finish? := by
    rw [List.filterMap_append]
    exact List.append_nil _
  refine ⟨hf.course.takes (.spawn hcan), hf.obeyed.concat (fun _ he => nomatch he), ?_, ?_, ?_, ?_,
    hf.aside⟩
  · rw [Sender.after_concat]
    exact hf.sender
  · simp only [callers, LoadSetting.apply, List.filterMap_append]
    exact hf.started.append_right [r.pool.next]
  · simp only [openCalls, LoadSetting.apply, hopen]
    exact hf.sending
  · intro c hc
    simp only [openCalls, LoadSetting.apply, hopen] at hc
    rw [Sender.promised_concat]
    exact List.mem_append_left _ (hf.replies c hc)

/-- The keeper records the outcome of a unit, which leaves the pool. -/
theorem Follows.record (hf : Follows s σ hs r) {unit : Nat} {ending : Ending}
    (hcan : ¬r.pool.canStart s.plan) (hlook : r.pool.ended.lookup unit = some ending) :
    Follows s σ (hs ++ [.recorded unit (ending.outcome unit)])
      (s.apply r { r.pool with
        ended := r.pool.ended.erase (unit, ending)
        summary := r.pool.summary.record (ending.outcome unit) } (.record unit)) where
  course := hf.course.takes (.record hcan hlook)
  obeyed := hf.obeyed.concat fun _ he => nomatch he
  sender := by
    rw [Sender.after_concat]
    exact hf.sender
  started := hf.started
  sending := hf.sending
  replies := fun c hc => by
    rw [Sender.promised_concat]
    exact List.mem_append_left _ (hf.replies c hc)
  aside := hf.aside

/-- A unit makes its call, and the sender says how it ends. -/
theorem Follows.send (hf : Follows s σ hs r) {unit : Nat} {rest : List NextStep}
    (hqueue : r.queue = .call unit :: rest) (hfloor : r.floor ≠ .keeper) :
    ∃ h q, r.pool.step s.plan (.call unit) = some q ∧
      Follows s σ (hs ++ [h]) (s.apply r q (.call unit)) := by
  obtain ⟨envelope, henv⟩ :=
    exists_unitEnvelope s.plan.selector s.seed unit (s.clock r.now)
  have hcallers : r.callers = unit :: rest.filterMap NextStep.call? := by
    rw [callers, hqueue]
    rfl
  have hmem : unit ∈ r.pool.started :=
    hf.started.mem_iff.1 (hcallers ▸ List.mem_cons_self)
  obtain ⟨hreply, hafter⟩ := reply_eq_send (σ := r.sender) henv
  obtain ⟨hsender, hcallers', hopen, hkeeper⟩ := applyCall_spec s hqueue
  have ht : Takes s.plan s.seed s.clock r.pool (.sent ⟨unit, r.now, envelope⟩) _ :=
    .send hmem henv
  refine ⟨.sent ⟨unit, r.now, envelope⟩, _, ht.step.2, ?_⟩
  have hpromised : s.sender.promised σ (hs ++ [.sent ⟨unit, r.now, envelope⟩]) =
      s.sender.promised σ hs ++ [(unit, (s.reply unit r.now r.sender).1.ending)] := by
    rw [Sender.promised_concat, hreply, hf.sender]
    rfl
  refine ⟨hf.course.takes ht, hf.obeyed.concat (fun _ he => nomatch he), ?_, ?_, ?_, ?_, ?_⟩
  · rw [Sender.after_concat, ← hf.sender]
    exact hsender.trans hafter
  · show (s.applyCall r unit).callers.Perm (r.pool.started.erase unit)
    rw [hcallers']
    exact (List.cons_perm_iff_perm_erase.1 (hcallers ▸ hf.started)).2
  · show ((s.applyCall r unit).openCalls.map OpenCall.unit).Perm (r.pool.sending ++ [unit])
    refine (hopen.map OpenCall.unit).trans ?_
    exact (hf.sending.cons unit).trans (List.perm_append_singleton unit _).symm
  · intro c hc
    rw [hpromised]
    rcases List.mem_cons.1 (hopen.mem_iff.1 hc) with rfl | hc
    · exact List.mem_append_right _ (List.mem_singleton_self _)
    · exact List.mem_append_left _ (hf.replies c hc)
  · exact fun h => absurd (hkeeper h) hfloor

/-- The call of a unit ends as the sender has said. -/
theorem Follows.finish (hf : Follows s σ hs r) {c : OpenCall} {rest : List NextStep}
    (hqueue : r.queue = .finish c :: rest) (hfloor : r.floor ≠ .keeper) :
    ∃ h q, r.pool.step s.plan (.finish c.unit c.reply.ending) = some q ∧
      Follows s σ (hs ++ [h]) (s.apply r q (.finish c.unit c.reply.ending)) := by
  have hopen : r.openCalls =
      c :: (rest.filterMap NextStep.finish? ++ (r.aside ++ r.waiting)) := by
    rw [openCalls, hqueue]
    rfl
  have hsending := hopen ▸ hf.sending
  rw [List.map_cons, List.cons_perm_iff_perm_erase] at hsending
  have ht : Takes s.plan s.seed s.clock r.pool (.ended c.unit c.reply.ending) _ :=
    .finish hsending.1
  refine ⟨.ended c.unit c.reply.ending, _, ht.step.2, hf.course.takes ht, ?_, ?_, ?_, ?_, ?_, ?_⟩
  · refine hf.obeyed.concat fun e he => ?_
    obtain rfl : (c.unit, c.reply.ending) = e := Option.some.inj he
    exact hf.replies c (hopen ▸ List.mem_cons_self)
  · rw [Sender.after_concat, ← hf.sender]
    rfl
  · have hcallers : r.callers = rest.filterMap NextStep.call? := by
      rw [callers, hqueue]
      rfl
    simp only [callers, LoadSetting.apply, LoadSetting.applyFinish, hqueue, List.drop_succ_cons,
      List.drop_zero]
    exact hcallers ▸ hf.started
  · simp only [openCalls, LoadSetting.apply, LoadSetting.applyFinish, hqueue, List.drop_succ_cons,
      List.drop_zero]
    exact hsending.2
  · intro c' hc'
    simp only [openCalls, LoadSetting.apply, LoadSetting.applyFinish, hqueue, List.drop_succ_cons,
      List.drop_zero] at hc'
    rw [Sender.promised_concat]
    exact List.mem_append_left _ (hf.replies c' (hopen ▸ List.mem_cons_of_mem _ hc'))
  · intro hkeeper
    simp only [LoadSetting.apply, LoadSetting.applyFinish] at hkeeper
    cases hr : r.floor with
    | keeper => exact absurd hr hfloor
    | units left =>
      rw [hr] at hkeeper
      cases hkeeper

/-- What comes next can happen in the pool, and the run follows on. -/
theorem Follows.event (hf : Follows s σ hs r) {e : PoolEvent} (he : r.nextEvent s.plan = some e) :
    ∃ h q, r.pool.step s.plan e = some q ∧ Follows s σ (hs ++ [h]) (s.apply r q e) := by
  unfold nextEvent at he
  split at he
  · split at he
    · next hcan =>
      cases he
      have ht : Takes s.plan s.seed s.clock r.pool _ _ := .spawn hcan
      exact ⟨_, _, ht.step.2, hf.spawn hcan⟩
    · next hcan =>
      cases hended : r.pool.ended with
      | nil =>
        rw [hended] at he
        cases he
      | cons first rest =>
        rw [hended] at he
        cases he
        have hlook : r.pool.ended.lookup first.1 = some first.2 := by
          rw [hended]
          exact List.lookup_cons_self
        have ht : Takes s.plan s.seed s.clock r.pool _ _ := .record hcan hlook
        exact ⟨_, _, ht.step.2, hf.record hcan hlook⟩
  · next left hfloor =>
    have hunits : r.floor ≠ .keeper := by
      rw [hfloor]
      exact Floor.noConfusion
    cases hqueue : r.queue with
    | nil =>
      rw [hqueue] at he
      cases he
    | cons next rest =>
      rw [hqueue] at he
      cases he
      cases next with
      | call unit => exact hf.send hqueue hunits
      | finish c => exact hf.finish hqueue hunits

/-- Whoever has something to do does it next. -/
theorem Ready.exists_event {plan : LoadPlan} (hready : r.Ready plan) :
    ∃ e, r.nextEvent plan = some e := by
  cases hfloor : r.floor with
  | keeper =>
    simp only [Ready, hfloor] at hready
    simp only [nextEvent, hfloor]
    split
    · exact ⟨_, rfl⟩
    · next hcan =>
      cases hended : r.pool.ended with
      | nil => simp [keeperActs, hcan, hended] at hready
      | cons e rest => exact ⟨_, rfl⟩
  | units left =>
    simp only [Ready, hfloor] at hready
    simp only [nextEvent, hfloor]
    cases hqueue : r.queue with
    | nil => exact absurd hqueue hready
    | cons next rest => exact ⟨_, rfl⟩

/-! ### Whole runs -/

/-- What happens next in a run is what may happen in its course. -/
theorem Follows.advance (hf : Follows s σ hs r) (hnext : s.advance r = some r') :
    ∃ h, Follows s σ (hs ++ [h]) r' := by
  simp only [LoadSetting.advance, Option.bind_eq_bind, Option.bind_eq_some_iff] at hnext
  obtain ⟨e, he, q, hstep, hr'⟩ := hnext
  obtain ⟨h, q', hstep', hf'⟩ := hf.handOver.event he
  rw [hstep] at hstep'
  cases hstep'
  cases hr'
  exact ⟨h, hf'⟩

/-- As long as the keeper does not leave, something happens next. -/
theorem Follows.exists_advance (hf : Follows s σ hs r) (hworkers : 0 < s.plan.concurrency)
    (hleave : r.pool.keeper s.plan ≠ .leave) : ∃ r', s.advance r = some r' := by
  obtain ⟨e, he⟩ := (hf.ready_handOver hworkers hleave).exists_event
  obtain ⟨h, q, hstep, -⟩ := hf.handOver.event he
  simp only [LoadSetting.advance, Option.bind_eq_bind, he, hstep, Option.bind_some]
  exact ⟨_, rfl⟩

/-- A run goes on until the keeper leaves, or so many things have happened. -/
theorem Follows.proceed (hworkers : 0 < s.plan.concurrency) (n : Nat) {hs : History}
    {r : LoadRun δ} (hf : Follows s σ hs r) : ∃ hs', Follows s σ hs' (s.proceed n r) ∧
      ((s.proceed n r).pool.keeper s.plan = .leave ∨ hs'.length = hs.length + n) := by
  induction n generalizing hs r with
  | zero => exact ⟨hs, hf, .inr rfl⟩
  | succ n ih =>
    rw [LoadSetting.proceed]
    cases hnext : s.advance r with
    | none =>
      -- A run only stops when the keeper has left.
      refine ⟨hs, hf, .inl ?_⟩
      by_contra hleave
      obtain ⟨r', hr'⟩ := hf.exists_advance hworkers hleave
      rw [hnext] at hr'
      cases hr'
    | some r' =>
      obtain ⟨h, hf'⟩ := hf.advance hnext
      obtain ⟨hs', hfollows, hend⟩ := ih hf'
      refine ⟨hs', hfollows, hend.imp_right fun hlen => ?_⟩
      rw [hlen, List.length_append, List.length_singleton]
      omega

end

end LoadRun

/-- A run with workers returns. What happens in it is a course that its sender is obeyed in
    and that ends when the keeper leaves, and the result is what the pool and the sender have
    come to by then. -/
theorem exists_run {δ : Type} (s : LoadSetting δ) (σ : δ) (hworkers : 0 < s.plan.concurrency) :
    ∃ hs p res, Course s.plan s.seed s.clock hs p ∧ p.keeper s.plan = .leave ∧
      s.sender.Obeyed σ hs ∧ s.run σ = .ok res ∧
      res.summary = p.summary.finish res.length (s.clock res.length) ∧
      res.sender = s.sender.after σ hs := by
  obtain ⟨hs, hf, hend⟩ := (LoadRun.follows_start σ).proceed hworkers
    (LoadSetting.eventCount s.plan)
  have ha := hf.course.account
  have hleave : (s.proceed (LoadSetting.eventCount s.plan) (s.start σ)).pool.keeper s.plan =
      .leave := by
    rcases hend with hleave | hlen
    · exact hleave
    · -- All events that the run was given have happened: four for each unit.
      rw [List.length_nil, Nat.zero_add] at hlen
      exact ha.keeper_eq_leave_iff.2 (ha.length_le.2 hlen)
  have hrun : s.run σ = .ok _ := if_neg (Nat.pos_iff_ne_zero.1 hworkers)
  exact ⟨hs, _, _, hf.course, hleave, hf.obeyed, hrun, rfl, hf.sender⟩

end SyntheticLoad

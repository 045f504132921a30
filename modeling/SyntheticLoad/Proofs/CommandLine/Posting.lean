import SyntheticLoad.CommandLine.Program
import SyntheticLoad.Proofs.Http.Asking
import SyntheticLoad.Proofs.Http.Request
import SyntheticLoad.Proofs.Load.TurnTaking
import SyntheticLoad.Proofs.Replay.Course

/-!
# What commands post

A command that runs a load or a replay takes the seed of its plan if there is one
(`Stage.send_of_run`, `Stage.replay_of_run`), and posts whatever envelopes the run hands over.

What a sender does with the envelopes is seen by keeping a log beside its state. A log only
grows, by what each envelope adds to it (`Sender.Logs`), so after a load run it holds what the
calls of the course have added (`Sender.Logs.after_eq`), and after a replay the same thing as
often as there were calls (`Sender.Logs.afterCalls_eq`). A log may be kept of the envelopes, or,
where an endpoint is the sender, of the requests that its network gets (`Endpoint.logs`).
-/

namespace SyntheticLoad

open CommandLine Http SyntheticLoad.Random Time

/-! ### Logs -/

namespace Sender

section

variable {δ α : Type}

/-- A sender with a log beside its state: each envelope adds something to the log, and nothing
    else changes. -/
structure Logs (d : Sender δ) (logged : Sender (δ × List α)) (adds : Envelope → List α) :
    Prop where
  send_eq : ∀ time envelope σ log, logged.send time envelope (σ, log) =
    ((d.send time envelope σ).1, (d.send time envelope σ).2, log ++ adds envelope)
  settle_eq : ∀ σ log, logged.settle (σ, log) = (d.settle σ, log)

theorem logs_logged (d : Sender δ) : d.Logs d.logged fun envelope => [envelope] where
  send_eq _ _ _ _ := rfl
  settle_eq _ _ := rfl

variable {d : Sender δ} {logged : Sender (δ × List α)} {adds : Envelope → List α}
  (h : d.Logs logged adds)

include h

/-- After a load run the log holds what its calls have added. -/
theorem Logs.after_eq (σ : δ) (hs : History) : logged.after (σ, []) hs =
    (d.after σ hs, hs.calls.flatMap fun call => adds call.envelope) := by
  induction hs using List.reverseRecOn with
  | nil => rfl
  | append_singleton hs happening ih =>
    rw [after_concat, after_concat, ih, History.calls_concat, List.flatMap_append]
    cases happening with
    | sent call =>
      rw [react, h.send_eq]
      exact congrArg (_, _ ++ ·) (List.append_nil _).symm
    | ended unit ending =>
      rw [react, h.settle_eq]
      exact congrArg (_, ·) (List.append_nil _).symm
    | spawned unit => exact congrArg (_, ·) (List.append_nil _).symm
    | recorded unit outcome => exact congrArg (_, ·) (List.append_nil _).symm

/-- Calls with one envelope add the same to the log each time. -/
theorem Logs.afterCalls_eq (payload : Envelope) (σ : δ) (log : List α) (times : List Span) :
    logged.afterCalls payload (σ, log) times = (d.afterCalls payload σ times,
      log ++ (List.replicate times.length (adds payload)).flatten) := by
  induction times generalizing σ log with
  | nil => exact congrArg (_, ·) (List.append_nil _).symm
  | cons time times ih =>
    rw [afterCalls, List.foldl_cons, h.send_eq, h.settle_eq]
    refine (ih _ _).trans (congrArg (_, ·) ?_)
    rw [List.append_assoc]
    rfl

end

end Sender

/-! ### Endpoints -/

namespace Http

namespace Endpoint

/-- The address of an endpoint is one to send to. -/
def CanPost (endpoint : Endpoint) : Prop :=
  endpoint.url.hasHost = true ∧ isSendable (splitUser endpoint.url).1 = true

section

variable {endpoint : Endpoint} {envelope : Envelope}
  (hlength : endpoint.headers.lookup contentLength = none)

include hlength

/-- When an envelope can be posted, and what is posted then. A header that says how long the body
    is might cut it short. -/
theorem request_eq_ok_iff {request : Request} : endpoint.request envelope = .ok request ↔
    endpoint.CanPost ∧ request = ⟨.post, (splitUser endpoint.url).1,
      withDefaults (splitUser endpoint.url).2 endpoint.headers, envelope.body⟩ := by
  have hvalues : ∀ h ∈ ([] : List (String × String)), isHeaderValue h.2 = true :=
    List.forall_mem_nil _
  rw [Endpoint.request, Request.make_eq_ok_iff rfl hlength, List.append_nil, CanPost, and_assoc]
  exact and_congr_right fun _ => and_congr_right fun _ => and_iff_right hvalues

theorem exists_request_iff : (∃ request, endpoint.request envelope = .ok request) ↔
    endpoint.CanPost :=
  ⟨fun ⟨_, hrequest⟩ => ((request_eq_ok_iff hlength).1 hrequest).1,
    fun hpost => ⟨_, (request_eq_ok_iff hlength).2 ⟨hpost, rfl⟩⟩⟩

/-- What is posted for an envelope is its body. -/
theorem body_request {request : Request} (h : endpoint.request envelope = .ok request) :
    request.body = envelope.body := by
  obtain ⟨-, rfl⟩ := (request_eq_ok_iff hlength).1 h
  rfl

theorem bodies_request (hpost : endpoint.CanPost) (envelope : Envelope) :
    (endpoint.request envelope).toOption.toList.map Request.body = [envelope.body] := by
  rw [(request_eq_ok_iff hlength).2 ⟨hpost, rfl⟩]
  rfl

end

section

variable {ν : Type} (endpoint : Endpoint) (network : Network ν)

/-- Whatever the network does, there is an outcome. -/
theorem answers_sender : (endpoint.sender network).Answers := fun _ _ _ => ⟨_, rfl⟩

/-- The network gets the request for an envelope, if there is one. -/
theorem logs : (endpoint.sender network).Logs (endpoint.sender network.logged)
    fun envelope => (endpoint.request envelope).toOption.toList where
  send_eq time envelope state log := by
    simp only [sender, post, Exchange.run_ofRequest, Network.ask_logged]
  settle_eq _ _ := rfl

end

end Endpoint

end Http

/-! ### Commands -/

namespace CommandLine.Stage

variable {ν : Type}

/-- A stage with a log of the requests that its network gets. -/
def logged (stage : Stage ν) : Stage (ν × List Request) :=
  ⟨stage.network.logged, stage.clock, stage.seed, stage.words, stage.write⟩

variable {stage : Stage ν} {target : Target} {endpoint : Endpoint} {metrics : Option String}
  {state : ν} {seed : UInt64}

/-- A load run has the seed of its plan, if there is one. -/
theorem send_of_run {plan : LoadPlan} {r : LoadSetting.Result ν} (hseed : plan.seed = some seed)
    (htarget : Endpoint.ofTarget target = .ok endpoint)
    (hrun : (LoadSetting.mk plan seed (endpoint.sender stage.network) stage.clock).run state =
      .ok r) :
    stage.perform (.send target plan metrics) state =
      (stage.report r.summary metrics, r.sender) := by
  simp only [perform, htarget, send, hseed, Option.getD_some, hrun]

/-- A replay has the seed of its plan, if there is one. -/
theorem replay_of_run {plan : ReplayPlan} {r : ReplayPlan.Result ν} (hseed : plan.seed = some seed)
    (htarget : Endpoint.ofTarget target = .ok endpoint)
    (hrun : plan.run seed (endpoint.sender stage.network) stage.clock state = .ok r) :
    stage.perform (.replay target plan metrics) state =
      (stage.report r.summary metrics, r.sender) := by
  simp only [perform, htarget, replay, hseed, Option.getD_some, hrun]

section

variable (stage metrics state) (htarget : Endpoint.ofTarget target = .ok endpoint)
  (hlength : endpoint.headers.lookup contentLength = none) (hpost : endpoint.CanPost)

include htarget hlength hpost

/-- A load run posts the bodies of the envelopes that are handed over until the keeper leaves. -/
theorem exists_sent {plan : LoadPlan} (hseed : plan.seed = some seed)
    (hworkers : 0 < plan.concurrency) : ∃ hs p conclusion after requests,
      Course plan seed stage.clock hs p ∧ p.keeper plan = .leave ∧
      stage.logged.perform (.send target plan metrics) (state, []) =
        (conclusion, after, requests) ∧
      requests.map Request.body = hs.calls.map (·.envelope.body) := by
  obtain ⟨hs, p, r, hc, hleave, -, hrun, -, hsender⟩ := exists_run
    (LoadSetting.mk plan seed (endpoint.sender stage.network.logged) stage.clock) (state, [])
    hworkers
  have hperform : stage.logged.perform (.send target plan metrics) (state, []) =
      (stage.report r.summary metrics, r.sender) := send_of_run hseed htarget hrun
  rw [hsender, (endpoint.logs stage.network).after_eq] at hperform
  refine ⟨hs, p, _, _, _, hc, hleave, hperform, ?_⟩
  simp only [List.map_flatMap, Endpoint.bodies_request hlength hpost]
  exact List.map_eq_flatMap.symm

/-- A replay posts the body of its envelope, as often as the plan says. -/
theorem exists_replayed {plan : ReplayPlan} (hseed : plan.seed = some seed) :
    ∃ payload conclusion after requests, plan.payload seed (stage.clock ⟨0⟩) = .ok payload ∧
      stage.logged.perform (.replay target plan metrics) (state, []) =
        (conclusion, after, requests) ∧
      requests.map Request.body = List.replicate plan.count.toNat payload.body := by
  obtain ⟨payload, hpayload⟩ := plan.exists_payload seed (stage.clock ⟨0⟩)
  obtain ⟨answers, c, hcourse, hturn⟩ := plan.exists_course Span.waited payload
    (endpoint.answers_sender stage.network.logged) (stage.clock ⟨0⟩) (state, [])
  obtain ⟨r, hrun, -, hsender, -⟩ := plan.exists_run_of_course stage.clock hpayload hcourse
  have hstarts : c.starts.length = plan.count.toNat := by
    rw [hturn.starts_eq, List.length_map, List.length_range]
  have hperform : stage.logged.perform (.replay target plan metrics) (state, []) =
      (stage.report r.summary metrics, r.sender) := replay_of_run hseed htarget hrun
  rw [hsender, hturn.sender_eq, (endpoint.logs stage.network).afterCalls_eq, hstarts] at hperform
  refine ⟨payload, _, _, _, hpayload, hperform, ?_⟩
  rw [List.nil_append, List.map_flatten, List.map_replicate,
    Endpoint.bodies_request hlength hpost, List.flatten_replicate_singleton]

end

end CommandLine.Stage

end SyntheticLoad

import Mathlib
import SyntheticLoad.Proofs.CommandLine.Arguments
import SyntheticLoad.Proofs.CommandLine.Posting
import SyntheticLoad.Proofs.Load.Schedules
import SyntheticLoad.Proofs.Record.Lossless

/-!
# A sample shows what is sent

A sample prints, load runs and replays send. All three make their envelopes from the number
of a unit, the seed and the clock (`unitEnvelope`), so while the clock stands still, the line
of a sample with some number is the body that the unit with this number sends, whatever
the schedule of the load run is, and the first line is the body of every send of a replay.

* The arguments of a sample are read as its plan (`read_sample`).
* Its output, cut at the line breaks, is one body after the other: there are no line breaks
  in bodies (`split_join_lines`).
* What a load run sends is seen by the calls of its course, by the log of a sender, and by the
  bodies of the requests that a network gets.
-/

namespace SyntheticLoad

open CommandLine Http SyntheticLoad.Random Text Time

/-! ### Lines -/

/-- Texts that are printed line by line are the lines of what is printed. -/
theorem split_join_lines {lines : List String} (h : ∀ line ∈ lines, '\n' ∉ line.toList) :
    split '\n' (String.join (lines.map (· ++ "\n"))).toList = lines.map String.toList ++ [[]] := by
  induction lines with
  | nil => rfl
  | cons line lines ih =>
    obtain ⟨hline, hlines⟩ := List.forall_mem_cons.1 h
    rw [List.map_cons, String.join_cons, String.toList_append, String.toList_append,
      List.append_assoc]
    exact (split_append_cons hline _).trans (congrArg _ (ih hlines))

theorem Envelope.newline_not_mem_body (e : Envelope) : '\n' ∉ e.body.toList := by
  rw [e.toList_body]
  exact (Json.NoControl.compact e.toJson e.sound_toJson).one_line

/-! ### Samples -/

namespace CommandLine

/-- The envelopes of a sample are those of the units with the same numbers. -/
theorem SamplePlan.exists_envelopes (p : SamplePlan) (seed : UInt64) (now : Instant)
    (n unit : Nat) :
    ∃ es, p.envelopes seed now unit n = .ok es ∧
      es.map Except.ok = (List.range' unit n).map fun u => unitEnvelope p.selector seed u now := by
  induction n generalizing unit with
  | zero => exact ⟨[], rfl, rfl⟩
  | succ n ih =>
    obtain ⟨e, he⟩ := exists_unitEnvelope p.selector seed unit now
    obtain ⟨es, hes, hmap⟩ := ih (unit + 1)
    refine ⟨e :: es, ?_, ?_⟩
    · rw [envelopes, he, hes]
      rfl
    · rw [List.range'_succ, List.map_cons, List.map_cons, he, hmap]

/-- A sample prints the lines of its envelopes. -/
theorem SamplePlan.exists_lines (p : SamplePlan) (seed : UInt64) (now : Instant) :
    ∃ es : List Envelope,
      p.output seed now = .ok (String.join (es.map fun e => p.line e ++ "\n")) ∧
      es.map Except.ok =
        (List.range p.count.toNat).map fun unit => unitEnvelope p.selector seed unit now := by
  obtain ⟨es, hes, hmap⟩ := p.exists_envelopes seed now p.count.toNat 0
  refine ⟨es, ?_, by rw [hmap, List.range_eq_range']⟩
  rw [output, hes]
  rfl

theorem SamplePlan.exists_output {p : SamplePlan} (hpretty : p.pretty = false) (seed : UInt64)
    (now : Instant) : ∃ es : List Envelope, p.output seed now =
        .ok (String.join ((es.map Envelope.body).map (· ++ "\n"))) ∧
      es.map Except.ok =
        (List.range p.count.toNat).map fun unit => unitEnvelope p.selector seed unit now := by
  obtain ⟨es, houtput, hmap⟩ := p.exists_lines seed now
  refine ⟨es, ?_, hmap⟩
  rw [houtput, List.map_map]
  simp only [line, hpretty]
  rfl

namespace Scan

variable {command : Option CommandName} {options : List OptionName}

/-- The name of an option that takes a value awaits it, once the value before has been
    looked at. -/
theorem step_name {s : Scan} {given : Given} {o : OptionName}
    (hclosed : s.closed = false) (hsettle : s.settle = .ok ⟨given, none, false⟩)
    (ho : options.find? (fun p => p.word == o.word) = some o) (hkind : o.kind ≠ .nothing) :
    step command options s ("--" ++ o.word) = .ok ⟨given, some (o, none), false⟩ := by
  have hargument : ("--" ++ o.word).toList = '-' :: '-' :: o.word.toList := String.toList_append
  rw [step_long hclosed o.word_ne_nil hargument, longArgument, cut_eq_none o.equals_not_mem_word]
  simp only [String.ofList_toList, ho, decide_eq_false hkind]
  rw [await, hsettle]
  rfl

/-- A text that does not begin with a hyphen is the value that is awaited. -/
theorem step_value {given : Given} {o : OptionName} {value : String}
    (h : value.toList.head? ≠ some '-') :
    step command options ⟨given, some (o, none), false⟩ value =
      .ok ⟨given, some (o, some value), false⟩ := by
  rw [step, if_neg (by simp)]
  -- In the first three cases it would begin with a hyphen.
  split
  · next heq => exact absurd (by rw [heq]; rfl) h
  · next heq => exact absurd (by rw [heq]; rfl) h
  · next heq => exact absurd (by rw [heq]; rfl) h
  · rfl

/-- The name of an option and its value, which is looked at later. -/
theorem foldlM_option {s : Scan} {given : Given} {o : OptionName} {name value : String}
    (hclosed : s.closed = false) (hsettle : s.settle = .ok ⟨given, none, false⟩)
    (ho : options.find? (fun p => p.word == o.word) = some o) (hkind : o.kind ≠ .nothing)
    (hname : name = "--" ++ o.word) (hvalue : value.toList.head? ≠ some '-')
    (rest : List String) :
    (name :: value :: rest).foldlM (step command options) s =
      rest.foldlM (step command options) ⟨given, some (o, some value), false⟩ := by
  rw [List.foldlM_cons, hname, step_name hclosed hsettle ho hkind]
  show List.foldlM (step command options) _ (value :: rest) = _
  rw [List.foldlM_cons, step_value hvalue]
  rfl

/-- A value that can be read is accepted, if its option has not been given. -/
theorem settle_value {given : Given} {o : OptionName} {value : String} {setting : Setting}
    (hnew : given.has o = false) (hread : readSetting o.kind value = .ok setting) :
    settle ⟨given, some (o, some value), false⟩ = .ok ⟨given ++ [(o, setting)], none, false⟩ := by
  simp only [settle, accept, hnew, hread]
  rfl

end Scan

/-- The arguments of a sample with a seed, a shape and a number of envelopes. -/
def sampleArguments (selector : Selector) (seed count : UInt64) : List String :=
  ["sample", "--seed", numeral seed.toNat, "--shape", selector.name, "--count",
    numeral count.toNat]

theorem readSetting_name (selector : Selector) :
    readSetting .shape selector.name = .ok (.selector selector) := by
  cases selector with
  | mixed => rfl
  | fixed shape => cases shape <;> rfl

theorem head_numeral (n : Nat) : (numeral n).toList.head? ≠ some '-' := by
  obtain ⟨c, cs, hcs, -, hminus⟩ := head_digits n
  rw [numeral, String.toList_ofList, hcs]
  exact fun heq => hminus (Option.some.inj heq)

theorem head_name (selector : Selector) : selector.name.toList.head? ≠ some '-' := by
  cases selector with
  | mixed => decide
  | fixed shape => cases shape <;> decide

/-- The arguments of a sample are read as its plan. -/
theorem read_sample (v : Variables) (selector : Selector) (seed count : UInt64) :
    Command.read v (sampleArguments selector seed count) =
      .ok (.sample ⟨selector, some seed, count, false⟩) := by
  -- Each value is looked at when the next name comes, and the last one at the end.
  have hseed : Scan.settle ⟨[], some (.seed, some (numeral seed.toNat)), false⟩ =
      .ok ⟨[(.seed, .number seed)], none, false⟩ :=
    Scan.settle_value rfl (readSetting_numeral seed)
  have hshape : Scan.settle ⟨[(.seed, .number seed)], some (.shape, some selector.name), false⟩ =
      .ok ⟨[(.seed, .number seed), (.shape, .selector selector)], none, false⟩ :=
    Scan.settle_value rfl (readSetting_name selector)
  have hcount : Scan.settle ⟨[(.seed, .number seed), (.shape, .selector selector)],
        some (.count, some (numeral count.toNat)), false⟩ =
      .ok ⟨[(.seed, .number seed), (.shape, .selector selector), (.count, .number count)], none,
        false⟩ :=
    Scan.settle_value rfl (readSetting_numeral count)
  have hscan := calc
      ["--seed", numeral seed.toNat, "--shape", selector.name, "--count",
        numeral count.toNat].foldlM (Scan.step (some .sample) CommandName.sample.options) Scan.start
    _ = ["--shape", selector.name, "--count", numeral count.toNat].foldlM
          (Scan.step (some .sample) CommandName.sample.options)
          ⟨[], some (.seed, some (numeral seed.toNat)), false⟩ :=
        Scan.foldlM_option (o := .seed) rfl rfl rfl (by decide) rfl (head_numeral _) _
    _ = ["--count", numeral count.toNat].foldlM
          (Scan.step (some .sample) CommandName.sample.options)
          ⟨[(.seed, .number seed)], some (.shape, some selector.name), false⟩ :=
        Scan.foldlM_option (o := .shape) rfl hseed rfl (by decide) rfl (head_name _) _
    _ = [].foldlM (Scan.step (some .sample) CommandName.sample.options)
          ⟨[(.seed, .number seed), (.shape, .selector selector)],
            some (.count, some (numeral count.toNat)), false⟩ :=
        Scan.foldlM_option (o := .count) rfl hshape rfl (by decide) rfl (head_numeral _) []
  have hrun : Scan.run .sample CommandName.sample.options
      ["--seed", numeral seed.toNat, "--shape", selector.name, "--count", numeral count.toNat] =
      .ok [(.seed, .number seed), (.shape, .selector selector), (.count, .number count)] := by
    rw [Scan.run, hscan, List.foldlM_nil, pure_bind, hcount]
    rfl
  exact Command.read_of_scan v hrun

end CommandLine

/-! ### What is sent -/

/-- Envelopes that are those of the first units, in the order of the units. -/
theorem getElem?_of_map_eq {es : List Envelope} {f : Nat → Except Fault Envelope} {n unit : Nat}
    (hes : es.map Except.ok = (List.range n).map f) (hlt : unit < n) {e : Envelope}
    (he : f unit = .ok e) : es[unit]? = some e := by
  have hunit := congrArg (·[unit]?) hes
  simp only [List.getElem?_map, List.getElem?_range hlt, Option.map_some, he] at hunit
  obtain ⟨e', he', heq⟩ := Option.map_eq_some_iff.1 hunit
  rw [he', Except.ok.inj heq]

section

variable {plan : LoadPlan} {seed : UInt64} {now : Instant} {hs : History} {p : Pool}
  {es : List Envelope}

/-- Every call of a course hands over the envelope with the number of its unit. -/
theorem Course.getElem?_envelope (hc : Course plan seed (fun _ => now) hs p)
    (hes : es.map Except.ok = (List.range plan.total.toNat).map fun unit =>
      unitEnvelope plan.selector seed unit now) :
    ∀ c ∈ hs.calls, es[c.unit]? = some c.envelope := by
  intro c hmem
  have ha := hc.account
  have hcalled : c.unit ∈ p.started ++ hs.calls.map Call.unit :=
    List.mem_append_right _ (List.mem_map_of_mem hmem)
  have hunit : c.unit < p.next := List.mem_range.1 (ha.calls.mem_iff.1 hcalled)
  exact getElem?_of_map_eq hes (Nat.lt_of_lt_of_le hunit ha.next_le) (ha.envelopes c hmem)

/-- A complete course sends the envelopes of all units. -/
theorem Complete.perm_envelopes (h : Complete plan seed (fun _ => now) hs p)
    (hes : es.map Except.ok = (List.range plan.total.toNat).map fun unit =>
      unitEnvelope plan.selector seed unit now) : (hs.calls.map Call.envelope).Perm es :=
  (List.map_perm_map_iff fun _ _ heq => Except.ok.inj heq).1 (hes ▸ h.map_envelopes)

end

/-- **A sample shows what is sent.** While the clock stands still, there is one list of
    envelopes for a seed, a shape or all of them, and a number, such that:

    * a sample prints their bodies, one on each line;
    * in every course of a load run of as many units, each call is made with the envelope
      whose place is the number of its unit, and when the keeper leaves, just these envelopes
      have been sent; a run with workers gets there, and hands its sender just these;
    * a replay makes the first of them, under the name of its plan if there is one, and hands
      its sender nothing else;
    * the commands with this seed post just these bodies, unless a header cuts them short: a load
      run posts all of them, and a replay the body of its envelope each time;
    * what is posted for an envelope is its body, and it is posted if the address is one to send
      to. -/
theorem sample_shows_what_is_sent (selector : Selector) (seed n : UInt64) (now : Instant) :
    ∃ es : List Envelope, es.length = n.toNat ∧
      (∀ (ν : Type) (stage : Stage ν) (v : Variables) (state : ν),
        (∀ time, stage.clock time = now) → ∃ output,
          stage.rehearse (sampleArguments selector seed n) v state = (.success output, state) ∧
            split '\n' output.toList = es.map (·.body.toList) ++ [[]]) ∧
      (∀ plan : LoadPlan, plan.total = n → plan.selector = selector →
        (∀ hs p, Course plan seed (fun _ => now) hs p →
          (∀ c ∈ hs.calls, es[c.unit]? = some c.envelope) ∧
            (p.keeper plan = .leave → (hs.calls.map Call.envelope).Perm es)) ∧
        (0 < plan.concurrency → ∀ (δ : Type) (d : Sender δ) (σ : δ), ∃ res,
          (LoadSetting.mk plan seed d.logged fun _ => now).run (σ, []) = .ok res ∧
            res.sender.2.Perm es)) ∧
      (0 < n → ∀ plan : ReplayPlan, plan.selector = selector → ∃ first payload,
        es[0]? = some first ∧ plan.payload seed now = .ok payload ∧
        payload.data = first.data ∧
        payload.schemaName = plan.schemaName.getD first.schemaName ∧
        (plan.schemaName = none → payload.body = first.body) ∧
        ∀ (δ : Type) (d : Sender δ) (σ : δ),
          (∀ res, plan.run seed d.logged (fun _ => now) (σ, []) = .ok res →
            res.sender.2 = List.replicate plan.count.toNat payload) ∧
          ∀ d' : Sender δ, (∀ time σ, d'.send time payload σ = d.send time payload σ) →
            d'.settle = d.settle →
              plan.run seed d' (fun _ => now) σ = plan.run seed d (fun _ => now) σ) ∧
      (∀ (ν : Type) (stage : Stage ν) (target : Target) (endpoint : Endpoint)
        (metrics : Option String) (state : ν), (∀ time, stage.clock time = now) →
        Endpoint.ofTarget target = .ok endpoint →
        endpoint.headers.lookup contentLength = none → endpoint.CanPost →
          (∀ plan : LoadPlan, plan.total = n → plan.selector = selector →
            plan.seed = some seed → 0 < plan.concurrency → ∃ conclusion after requests,
              stage.logged.perform (.send target plan metrics) (state, []) =
                (conclusion, after, requests) ∧
              (requests.map Request.body).Perm (es.map Envelope.body)) ∧
          ∀ plan : ReplayPlan, plan.seed = some seed →
            ∃ payload conclusion after requests, plan.payload seed now = .ok payload ∧
              stage.logged.perform (.replay target plan metrics) (state, []) =
                (conclusion, after, requests) ∧
              requests.map Request.body = List.replicate plan.count.toNat payload.body) ∧
      ∀ endpoint : Endpoint, endpoint.headers.lookup contentLength = none → ∀ envelope,
        (∀ request, endpoint.request envelope = .ok request → request.body = envelope.body) ∧
          ((∃ request, endpoint.request envelope = .ok request) ↔ endpoint.CanPost) := by
  obtain ⟨es, houtput, hes⟩ :=
    (SamplePlan.mk selector (some seed) n false).exists_output rfl seed now
  have hlength : es.length = n.toNat := by
    simpa only [List.length_map, List.length_range] using congrArg List.length hes
  refine ⟨es, hlength, fun ν stage v state hclock => ?_, fun plan htotal hselector => ?_,
    fun hpos plan hselector => ?_, fun ν stage target endpoint metrics state hclock htarget
      hnone hpost => ⟨fun plan htotal hselector hseed hworkers => ?_, fun plan hseed => ?_⟩,
    fun endpoint hnone envelope => ⟨fun request => Endpoint.body_request hnone,
      Endpoint.exists_request_iff hnone⟩⟩
  · -- The sample.
    have hbodies : ∀ body ∈ es.map Envelope.body, '\n' ∉ body.toList := by
      intro body hbody
      obtain ⟨e, -, rfl⟩ := List.mem_map.1 hbody
      exact e.newline_not_mem_body
    refine ⟨_, ?_, (split_join_lines hbodies).trans (by rw [List.map_map]; rfl)⟩
    rw [Stage.rehearse, read_sample]
    simp only [Stage.perform, hclock, Option.getD_some, houtput]
  · -- The load run.
    subst htotal hselector
    refine ⟨fun hs p hc => ⟨hc.getElem?_envelope hes, fun hleave =>
      (hc.account.complete hleave).perm_envelopes hes⟩, fun hworkers δ d σ => ?_⟩
    obtain ⟨hs, p, res, hc, hleave, -, hrun, -, hsender⟩ :=
      exists_run (LoadSetting.mk plan seed d.logged fun _ => now) (σ, []) hworkers
    refine ⟨res, hrun, ?_⟩
    rw [hsender, d.logs_logged.after_eq, ← List.map_eq_flatMap]
    exact (hc.account.complete hleave).perm_envelopes hes
  · -- The replay.
    subst hselector
    obtain ⟨first, hfirst⟩ := exists_unitEnvelope plan.selector seed 0 now
    have hpayload : plan.payload seed now = .ok (plan.rename first) := by
      rw [plan.payload_eq, hfirst]
      rfl
    refine ⟨first, plan.rename first, getElem?_of_map_eq hes hpos hfirst, hpayload,
      plan.data_rename first, plan.schemaName_rename first, fun hname => ?_, fun δ d σ =>
        ⟨fun res hres => plan.run_logged (fun _ => now) hpayload hres,
          fun d' hsend hsettle => plan.run_congr (fun _ => now) hpayload hsend hsettle σ⟩⟩
    rw [ReplayPlan.rename, hname]
  · -- The commands.
    subst htotal hselector
    obtain ⟨hs, p, conclusion, after, requests, hc, hleave, hperform, hbodies⟩ :=
      stage.exists_sent metrics state htarget hnone hpost hseed hworkers
    rw [funext hclock] at hc
    have hperm := ((hc.account.complete hleave).perm_envelopes hes).map Envelope.body
    rw [List.map_map] at hperm
    exact ⟨conclusion, after, requests, hperform, hbodies ▸ hperm⟩
  · have hreplayed := stage.exists_replayed metrics state htarget hnone hpost hseed
    rwa [hclock] at hreplayed

/-- Three envelopes of any shapes: what is printed, what two workers send, what a replay sends
    that has no name of its own, and what the command posts to the machine itself. -/
theorem sample_shows_what_is_sent_of_three :
    let now : Instant := ⟨1700000000, 0⟩
    let stage : Stage Unit := ⟨⟨fun _ state => (none, state)⟩, fun _ => now, 9,
      fun _ => Keystream.ofSeed 0, fun _ => .ok ()⟩
    let load : LoadPlan := { LoadPlan.basic 3 2 .mixed with seed := some 7 }
    let target : Target := ⟨"http://[::1]/", none, [], false⟩
    let replay : ReplayPlan := .basic 2 .mixed
    ∃ (es : List Envelope) (output : String), es.length = 3 ∧
      stage.rehearse (sampleArguments .mixed 7 3) ⟨none, none, none⟩ () = (.success output, ()) ∧
      split '\n' output.toList = es.map (·.body.toList) ++ [[]] ∧
      (∃ res, (LoadSetting.mk load 7 (Stub.fixed 200).logged fun _ => now).run (0, []) = .ok res ∧
        res.sender.2.Perm es) ∧
      (∃ first payload, es[0]? = some first ∧ replay.payload 7 now = .ok payload ∧
        payload.body = first.body) ∧
      ∃ conclusion after requests,
        stage.logged.perform (.send target load none) ((), []) = (conclusion, after, requests) ∧
        (requests.map Request.body).Perm (es.map Envelope.body) := by
  intro now stage load target replay
  obtain ⟨es, hlength, hsample, hload, hreplay, hcommands, -⟩ :=
    sample_shows_what_is_sent .mixed 7 3 now
  obtain ⟨output, houtput, hlines⟩ := hsample Unit stage ⟨none, none, none⟩ () fun _ => rfl
  obtain ⟨first, payload, hfirst, hpayload, -, -, hbody, -⟩ := hreplay (by decide) replay rfl
  have hurl : Url.parse target.endpoint = .ok ⟨"http", "", "",
      some (.ipv6 [0, 0, 0, 0, 0, 0, 0, 1]), none, .segments [""], none, none⟩ := by cbv
  have htarget : Endpoint.ofTarget target = .ok ⟨⟨"http", "", "",
      some (.ipv6 [0, 0, 0, 0, 0, 0, 0, 1]), none, .segments [""], none, none⟩,
      [(contentType, jsonType)], false⟩ := by
    rw [Endpoint.ofTarget, readAddress, hurl]
    rfl
  exact ⟨es, output, hlength, houtput, hlines,
    (hload load rfl rfl).2 (by decide) Nat (Stub.fixed 200) 0,
    ⟨first, payload, hfirst, hpayload, hbody rfl⟩,
    (hcommands Unit stage target _ none () (fun _ => rfl) htarget rfl ⟨rfl, by cbv⟩).1 load rfl
      rfl rfl (by decide)⟩

end SyntheticLoad

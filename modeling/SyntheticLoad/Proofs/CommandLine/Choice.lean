import SyntheticLoad.Proofs.CommandLine.Arguments

/-!
# Choices are read back

Whatever is chosen of a command's options (`Choice`) can be written as arguments, each option
with its value in the same argument. In whatever order that is done (`Choice.Arranged`), the
arguments are read as what has been chosen, with the variables of the environment and the
defaults for the rest (`Choice.command`).
-/

namespace SyntheticLoad.CommandLine

open Time

/-! ### Choices -/

/-- What is chosen of a target. -/
structure TargetChoice where
  endpoint : Option String
  authToken : Option String
  headers : List HeaderText
  captureBody : Bool

/-- What is chosen of a load. -/
structure SendChoice where
  target : TargetChoice
  requests : Option DecimalText
  concurrency : Option DecimalText
  shape : Option ShapeText
  seed : Option DecimalText
  progressInterval : Option DecimalText
  metricsOutput : Option { s : String // s ≠ "" }

/-- What is chosen of a replay. -/
structure ReplayChoice where
  target : TargetChoice
  count : Option DecimalText
  delayMs : Option DecimalText
  shape : Option ShapeText
  seed : Option DecimalText
  schemaName : Option String
  metricsOutput : Option { s : String // s ≠ "" }

/-- What is chosen of a scenario. -/
structure ScenarioChoice where
  baseUrl : Option String
  users : Option DecimalText
  iterations : Option DecimalText
  waitMinMs : Option DecimalText
  waitMaxMs : Option DecimalText
  password : Option String

/-- What is chosen of a sample. -/
structure SampleChoice where
  shape : Option ShapeText
  seed : Option DecimalText
  count : Option DecimalText
  pretty : Bool

/-- What is chosen of the options of a command. -/
inductive Choice
  | send (c : SendChoice)
  | replay (c : ReplayChoice)
  | scenario (c : ScenarioChoice)
  | sample (c : SampleChoice)

/-- The value of an option, if one is chosen. -/
def chosen {α : Type} (value : α → Value) (x : Option α) : List Value := x.toList.map value

/-- The value of an option that takes nothing. -/
def switched (on : Bool) : List Value := if on then [.flag] else []

/-- A path as a value. -/
def pathValue (s : { s : String // s ≠ "" }) : Value := .path s.1 s.2

/-- The values that are chosen for an option. -/
def TargetChoice.values (c : TargetChoice) : OptionName → List Value
  | .endpoint => chosen .text c.endpoint
  | .authToken => chosen .text c.authToken
  | .header => c.headers.map .header
  | .captureBody => switched c.captureBody
  | _ => []

def SendChoice.values (c : SendChoice) : OptionName → List Value
  | .requests => chosen .number c.requests
  | .concurrency => chosen .number c.concurrency
  | .shape => chosen .shape c.shape
  | .seed => chosen .number c.seed
  | .progressInterval => chosen .number c.progressInterval
  | .metricsOutput => chosen pathValue c.metricsOutput
  | o => c.target.values o

def ReplayChoice.values (c : ReplayChoice) : OptionName → List Value
  | .count => chosen .number c.count
  | .delayMs => chosen .number c.delayMs
  | .shape => chosen .shape c.shape
  | .seed => chosen .number c.seed
  | .schemaName => chosen .text c.schemaName
  | .metricsOutput => chosen pathValue c.metricsOutput
  | o => c.target.values o

def ScenarioChoice.values (c : ScenarioChoice) : OptionName → List Value
  | .baseUrl => chosen .text c.baseUrl
  | .users => chosen .number c.users
  | .iterations => chosen .number c.iterations
  | .waitMinMs => chosen .number c.waitMinMs
  | .waitMaxMs => chosen .number c.waitMaxMs
  | .password => chosen .text c.password
  | _ => []

def SampleChoice.values (c : SampleChoice) : OptionName → List Value
  | .shape => chosen .shape c.shape
  | .seed => chosen .number c.seed
  | .count => chosen .number c.count
  | .pretty => switched c.pretty
  | _ => []

namespace Choice

/-- The command of a choice. -/
def name : Choice → CommandName
  | send _ => .send
  | replay _ => .replay
  | scenario _ => .scenario
  | sample _ => .sample

/-- The values that are chosen for an option. -/
def values : Choice → OptionName → List Value
  | send c => c.values
  | replay c => c.values
  | scenario c => c.values
  | sample c => c.values

/-- Options with their values in any order, with the values that are chosen for an option in
    theirs. -/
def Arranged (c : Choice) (items : List (OptionName × Value)) : Prop :=
  ∀ o, valuesOf items o = c.values o

/-- Options with their values in the order in which a command has its options. -/
def items (c : Choice) : List (OptionName × Value) :=
  c.name.options.flatMap fun o => (c.values o).map fun x => (o, x)

end Choice

/-- The target that is chosen, in an environment with some variables. -/
def TargetChoice.target (environment : String → Option String) (c : TargetChoice) : Target where
  endpoint :=
    (c.endpoint.or (environment "INGEST_ENDPOINT")).getD "http://localhost:8083/ingest"
  authToken := c.authToken.or (environment "INGEST_AUTH_TOKEN")
  headers := c.headers.map fun h => (h.name, h.value)
  captureBody := c.captureBody

/-- The number that is chosen, or a default. -/
def numberOr (default : UInt64) (x : Option DecimalText) : UInt64 :=
  (x.map DecimalText.number).getD default

/-- The shape that is chosen, or a default. -/
def selectorOr (default : Selector) (x : Option ShapeText) : Selector :=
  (x.map ShapeText.selector).getD default

/-- The command that is chosen, in an environment with some variables. -/
def Choice.command (environment : String → Option String) : Choice → Command
  | send c =>
    .send (c.target.target environment)
      { total := numberOr 1000 c.requests
        concurrency := (numberOr 100 c.concurrency).toNat
        selector := selectorOr .mixed c.shape
        seed := c.seed.map DecimalText.number
        progressInterval := numberOr 1000 c.progressInterval }
      (c.metricsOutput.map Subtype.val)
  | replay c =>
    .replay (c.target.target environment)
      { count := numberOr 30 c.count
        pause := .ofMillis (numberOr 100 c.delayMs).toNat
        selector := selectorOr (.fixed .profile) c.shape
        seed := c.seed.map DecimalText.number
        schemaName := c.schemaName }
      (c.metricsOutput.map Subtype.val)
  | scenario c =>
    .scenario
      { address := (c.baseUrl.or (environment "INGEST_BASE_URL")).getD "http://localhost:8080"
        users := (numberOr 10 c.users).toNat
        iterations := numberOr 20 c.iterations
        shortest := .ofMillis (numberOr 1000 c.waitMinMs).toNat
        longest := .ofMillis (numberOr 3000 c.waitMaxMs).toNat
        password := c.password.getD "password123" }
  | sample c =>
    .sample
      { selector := selectorOr .mixed c.shape
        seed := c.seed.map DecimalText.number
        count := numberOr 1 c.count
        pretty := c.pretty }

/-! ### Choices that are given -/

section

variable {g : Given} {o : OptionName}

theorem Given.text?_eq {t : Option String}
    (h : g.lookup o = (chosen .text t).head?.map Value.setting) : g.text? o = t := by
  rw [Given.text?, h]
  cases t <;> rfl

theorem Given.text?_eq_path {s : Option { s : String // s ≠ "" }}
    (h : g.lookup o = (chosen pathValue s).head?.map Value.setting) :
    g.text? o = s.map Subtype.val := by
  rw [Given.text?, h]
  cases s <;> rfl

theorem Given.number?_eq {d : Option DecimalText}
    (h : g.lookup o = (chosen .number d).head?.map Value.setting) :
    g.number? o = d.map DecimalText.number := by
  rw [Given.number?, h]
  cases d <;> rfl

theorem Given.number_eq {d : Option DecimalText}
    (h : g.lookup o = (chosen .number d).head?.map Value.setting) (default : UInt64) :
    g.number o default = numberOr default d := by
  rw [Given.number, Given.number?_eq h, numberOr]

theorem Given.millis_eq {d : Option DecimalText}
    (h : g.lookup o = (chosen .number d).head?.map Value.setting) (default : UInt64) :
    g.millis o default = .ofMillis (numberOr default d).toNat := by
  rw [Given.millis, Given.number_eq h]

theorem Given.has_eq {on : Bool} (h : g.lookup o = (switched on).head?.map Value.setting) :
    g.has o = on := by
  rw [Given.has_eq_isSome, h]
  cases on <;> rfl

theorem Given.selector?_eq {s : Option ShapeText}
    (h : g.lookup o = (chosen .shape s).head?.map Value.setting) :
    g.selector? o = s.map ShapeText.selector := by
  rw [Given.selector?, h]
  cases s <;> rfl

end

namespace Fits

variable {name : CommandName} {o : OptionName}

theorem nil : Fits name o [] where
  mem_options hne := absurd rfl hne
  kind_eq _ hx := absurd hx List.not_mem_nil
  length_le _ := Nat.zero_le 1

theorem chosen {α : Type} {value : α → Value} (hmem : o ∈ name.options ∧ o ≠ .help)
    (hkind : ∀ a, (value a).kind = o.kind) (x : Option α) : Fits name o (chosen value x) where
  mem_options _ := hmem
  kind_eq y hy := by
    obtain ⟨a, -, rfl⟩ := List.mem_map.1 hy
    exact hkind a
  length_le _ := by
    cases x with
    | none => exact Nat.zero_le 1
    | some a => exact Nat.le_refl 1

theorem switched (hmem : o ∈ name.options ∧ o ≠ .help) (hkind : o.kind = .nothing) (on : Bool) :
    Fits name o (switched on) where
  mem_options _ := hmem
  kind_eq x hx := by
    cases on with
    | false => cases hx
    | true => rw [List.mem_singleton.1 hx, hkind, Value.kind]
  length_le _ := by
    cases on with
    | false => exact Nat.zero_le 1
    | true => exact Nat.le_refl 1

theorem headers (hmem : OptionName.header ∈ name.options) (hs : List HeaderText) :
    Fits name .header (hs.map .header) where
  mem_options _ := ⟨hmem, by decide⟩
  kind_eq x hx := by
    obtain ⟨h, -, rfl⟩ := List.mem_map.1 hx
    rfl
  length_le h := absurd h (by decide)

end Fits

/-- What is chosen of a target may be given where there is one. -/
theorem TargetChoice.fits (c : TargetChoice) {name : CommandName}
    (hname : ∀ o ∈ CommandName.targetOptions, o ∈ name.options) (o : OptionName) :
    Fits name o (c.values o) := by
  cases o with
  | endpoint => exact .chosen ⟨hname _ (by decide), by decide⟩ (fun _ => rfl) _
  | authToken => exact .chosen ⟨hname _ (by decide), by decide⟩ (fun _ => rfl) _
  | header => exact .headers (hname _ (by decide)) _
  | captureBody => exact .switched ⟨hname _ (by decide), by decide⟩ rfl _
  | _ => exact .nil

theorem SendChoice.fits (c : SendChoice) (o : OptionName) : Fits .send o (c.values o) := by
  cases o with
  | requests => exact .chosen (by decide) (fun _ => rfl) _
  | concurrency => exact .chosen (by decide) (fun _ => rfl) _
  | shape => exact .chosen (by decide) (fun _ => rfl) _
  | seed => exact .chosen (by decide) (fun _ => rfl) _
  | progressInterval => exact .chosen (by decide) (fun _ => rfl) _
  | metricsOutput => exact .chosen (by decide) (fun _ => rfl) _
  | _ => exact c.target.fits (by decide) _

theorem ReplayChoice.fits (c : ReplayChoice) (o : OptionName) : Fits .replay o (c.values o) := by
  cases o with
  | count => exact .chosen (by decide) (fun _ => rfl) _
  | delayMs => exact .chosen (by decide) (fun _ => rfl) _
  | shape => exact .chosen (by decide) (fun _ => rfl) _
  | seed => exact .chosen (by decide) (fun _ => rfl) _
  | schemaName => exact .chosen (by decide) (fun _ => rfl) _
  | metricsOutput => exact .chosen (by decide) (fun _ => rfl) _
  | _ => exact c.target.fits (by decide) _

theorem ScenarioChoice.fits (c : ScenarioChoice) (o : OptionName) :
    Fits .scenario o (c.values o) := by
  cases o with
  | baseUrl => exact .chosen (by decide) (fun _ => rfl) _
  | users => exact .chosen (by decide) (fun _ => rfl) _
  | iterations => exact .chosen (by decide) (fun _ => rfl) _
  | waitMinMs => exact .chosen (by decide) (fun _ => rfl) _
  | waitMaxMs => exact .chosen (by decide) (fun _ => rfl) _
  | password => exact .chosen (by decide) (fun _ => rfl) _
  | _ => exact .nil

theorem SampleChoice.fits (c : SampleChoice) (o : OptionName) : Fits .sample o (c.values o) := by
  cases o with
  | shape => exact .chosen (by decide) (fun _ => rfl) _
  | seed => exact .chosen (by decide) (fun _ => rfl) _
  | count => exact .chosen (by decide) (fun _ => rfl) _
  | pretty => exact .switched (by decide) rfl _
  | _ => exact .nil

/-- Whatever is chosen may be given. -/
theorem Choice.fits (c : Choice) (o : OptionName) : Fits c.name o (c.values o) := by
  cases c with
  | send c => exact c.fits o
  | replay c => exact c.fits o
  | scenario c => exact c.fits o
  | sample c => exact c.fits o

theorem SendChoice.values_target (c : SendChoice) {o : OptionName}
    (ho : o ∈ CommandName.targetOptions) : c.values o = c.target.values o := by
  cases o with
  | endpoint => rfl
  | authToken => rfl
  | header => rfl
  | captureBody => rfl
  | _ => exact absurd ho (by decide)

theorem ReplayChoice.values_target (c : ReplayChoice) {o : OptionName}
    (ho : o ∈ CommandName.targetOptions) : c.values o = c.target.values o := by
  cases o with
  | endpoint => rfl
  | authToken => rfl
  | header => rfl
  | captureBody => rfl
  | _ => exact absurd ho (by decide)

section

variable {items : List (OptionName × Value)} (environment : String → Option String)

/-- The target that is given is the one that is chosen. -/
theorem TargetChoice.target_eq {c : TargetChoice}
    (h : ∀ o ∈ CommandName.targetOptions, valuesOf items o = c.values o) :
    (settings items).target (.ofLookup environment) = c.target environment := by
  have hlookup (o : OptionName) (ho : o ∈ CommandName.targetOptions) :
      (settings items).lookup o = (c.values o).head?.map Value.setting := by
    rw [lookup_settings, h o ho]
  have hheaders : (settings items).headers = c.headers.map fun h => (h.name, h.value) := by
    rw [headers_settings, h .header (by decide), TargetChoice.values, List.filterMap_map]
    exact congrFun (List.filterMap_eq_map (f := fun h : HeaderText => (h.name, h.value))) c.headers
  rw [Given.target, Given.text?_eq (t := c.endpoint) (hlookup .endpoint (by decide)),
    Given.text?_eq (t := c.authToken) (hlookup .authToken (by decide)), hheaders,
    Given.has_eq (hlookup .captureBody (by decide))]
  rfl

/-- What is given behind the name of a command is the command that is chosen. -/
theorem Choice.Arranged.command_eq {c : Choice} (h : c.Arranged items) :
    (settings items).command (.ofLookup environment) c.name = c.command environment := by
  have hlookup (o : OptionName) :
      (settings items).lookup o = (c.values o).head?.map Value.setting := by
    rw [lookup_settings, h o]
  cases c with
  | send c =>
    have htarget := TargetChoice.target_eq environment
      fun o ho => (h o).trans (c.values_target ho)
    have hplan : (settings items).loadPlan =
        ⟨numberOr 1000 c.requests, (numberOr 100 c.concurrency).toNat, selectorOr .mixed c.shape,
          c.seed.map DecimalText.number, numberOr 1000 c.progressInterval⟩ := by
      rw [Given.loadPlan, Given.number_eq (hlookup .requests),
        Given.number_eq (hlookup .concurrency), Given.selector?_eq (hlookup .shape),
        Given.number?_eq (hlookup .seed), Given.number_eq (hlookup .progressInterval)]
      rfl
    exact congr (congr (congrArg Command.send htarget) hplan)
      (Given.text?_eq_path (hlookup .metricsOutput))
  | replay c =>
    have htarget := TargetChoice.target_eq environment
      fun o ho => (h o).trans (c.values_target ho)
    have hplan : (settings items).replayPlan =
        ⟨numberOr 30 c.count, .ofMillis (numberOr 100 c.delayMs).toNat,
          selectorOr (.fixed .profile) c.shape, c.seed.map DecimalText.number, c.schemaName⟩ := by
      rw [Given.replayPlan, Given.number_eq (hlookup .count), Given.millis_eq (hlookup .delayMs),
        Given.selector?_eq (hlookup .shape), Given.number?_eq (hlookup .seed),
        Given.text?_eq (hlookup .schemaName)]
      rfl
    exact congr (congr (congrArg Command.replay htarget) hplan)
      (Given.text?_eq_path (hlookup .metricsOutput))
  | scenario c =>
    refine congrArg Command.scenario ?_
    rw [Given.scenarioPlan, Given.text?_eq (hlookup .baseUrl), Given.number_eq (hlookup .users),
      Given.number_eq (hlookup .iterations), Given.millis_eq (hlookup .waitMinMs),
      Given.millis_eq (hlookup .waitMaxMs), Given.text?_eq (hlookup .password)]
    rfl
  | sample c =>
    refine congrArg Command.sample ?_
    rw [Given.samplePlan, Given.selector?_eq (hlookup .shape), Given.number?_eq (hlookup .seed),
      Given.number_eq (hlookup .count), Given.has_eq (hlookup .pretty)]
    rfl

end

/-- Of the values that are all written for one option, every other one has none. -/
theorem valuesOf_map (xs : List Value) (p o : OptionName) :
    valuesOf (xs.map fun x => (p, x)) o = if p = o then xs else [] := by
  induction xs with
  | nil => exact (ite_self []).symm
  | cons x xs ih =>
    by_cases hp : p = o
    · subst hp
      rw [List.map_cons, valuesOf_cons_self, ih, if_pos rfl, if_pos rfl]
    · rw [List.map_cons, valuesOf_cons_of_ne _ _ _ hp, ih, if_neg hp, if_neg hp]

theorem valuesOf_flatMap {options : List OptionName} (hnodup : options.Nodup)
    (values : OptionName → List Value) (o : OptionName) :
    valuesOf (options.flatMap fun p => (values p).map fun x => (p, x)) o =
      if o ∈ options then values o else [] := by
  induction options with
  | nil => rfl
  | cons p options ih =>
    obtain ⟨hp, hnodup⟩ := List.nodup_cons.1 hnodup
    rw [List.flatMap_cons, valuesOf_append, valuesOf_map, ih hnodup]
    by_cases hpo : p = o
    · subst hpo
      rw [if_pos rfl, if_neg hp, if_pos List.mem_cons_self, List.append_nil]
    · rw [if_neg hpo, List.nil_append]
      simp only [List.mem_cons, Ne.symm hpo, false_or]

/-- Whatever is chosen can be written. -/
theorem Choice.arranged_items (c : Choice) : c.Arranged c.items := by
  intro o
  rw [items, valuesOf_flatMap c.name.nodup_options]
  by_cases ho : o ∈ c.name.options
  · rw [if_pos ho]
  · rw [if_neg ho]
    cases hvalues : c.values o with
    | nil => rfl
    | cons x xs => exact absurd ((c.fits o).mem_options (hvalues ▸ List.cons_ne_nil x xs)).1 ho

/-- **What is written is read back.** Choose any values for any of the options of a command, and
    write them behind its name in any order. The arguments are read as the command with these
    values, and with the variables of the environment and the defaults for the options that are
    left out. -/
theorem written_arguments_read (c : Choice) (environment : String → Option String) :
    c.Arranged c.items ∧ ∀ items, c.Arranged items →
      Command.read (.ofLookup environment)
          (c.name.word :: items.map fun item => argument item.1 item.2) =
        .ok (c.command environment) := by
  refine ⟨c.arranged_items, fun items h => ?_⟩
  have hfits (o : OptionName) : Fits c.name o (valuesOf items o) := by
    rw [h o]
    exact c.fits o
  rw [Command.read_arguments _ hfits, h.command_eq environment]

/-- A load with two headers, and with a token that is set to nothing in the environment. -/
theorem written_arguments_read_of_load :
    Command.read (.ofLookup fun name => if name = "INGEST_AUTH_TOKEN" then some "" else none)
        ["send", "--header=A: 1", "--endpoint=--a=b", "--capture-body", "--header= b::",
          "--concurrency=007", "--shape= Mixed"] =
      .ok (.send ⟨"--a=b", some "", [("A", "1"), ("b", ":")], true⟩
        ⟨1000, 7, .mixed, none, 1000⟩ none) := by
  let first : HeaderText := ⟨"A: 1", "A", "1", by rfl⟩
  let second : HeaderText := ⟨" b::", "b", ":", by rfl⟩
  let shape : ShapeText := ⟨" Mixed", .mixed, by rfl⟩
  let c : Choice := .send ⟨⟨some "--a=b", none, [first, second], true⟩, none, some ⟨2, 7⟩,
    some shape, none, none, none⟩
  have hnumber : argument .concurrency (.number ⟨2, 7⟩) = "--concurrency=007" := by
    have hdigits : Text.digits (7 : UInt64).toNat = ['7'] := Text.digits_of_lt (by decide)
    rw [argument, Value.text?, DecimalText.text, hdigits]
    rfl
  have hread := (written_arguments_read c fun name =>
      if name = "INGEST_AUTH_TOKEN" then some "" else none).2
    [(.header, .header first), (.endpoint, .text "--a=b"), (.captureBody, .flag),
      (.header, .header second), (.concurrency, .number ⟨2, 7⟩), (.shape, .shape shape)]
    fun o => by cases o <;> rfl
  simp only [List.map_cons, hnumber] at hread
  exact hread

end SyntheticLoad.CommandLine

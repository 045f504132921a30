import SyntheticLoad.CommandLine.Command
import SyntheticLoad.Proofs.Text.Cut
import SyntheticLoad.Proofs.Text.Numeral

/-!
# Arguments that are written

An option is written with its value in one argument (`argument`). Behind the name of a command,
such arguments are read as the settings that they have been written from, in their order
(`Command.read_arguments`). A value begins behind the first sign of equality and goes to the end,
so that any text may stand in it, hyphens and further signs of equality included.
-/

namespace SyntheticLoad.CommandLine

open Text

/-! ### Values -/

/-- A number in decimal, with zeros in front of it. -/
structure DecimalText where
  zeros : Nat
  number : UInt64
  deriving DecidableEq, Repr

/-- The text of a number. -/
def DecimalText.text (d : DecimalText) : String :=
  String.ofList (List.replicate d.zeros '0' ++ digits d.number.toNat)

/-- A text that names a shape, or all of them. -/
structure ShapeText where
  text : String
  selector : Selector
  read_eq : Selector.read text = .ok selector

/-- A text with the name and the value of a header. -/
structure HeaderText where
  text : String
  name : String
  value : String
  read_eq : Target.readHeader text = .ok (name, value)

/-- What an option is given. -/
inductive Value
  | flag
  | text (s : String)
  | path (s : String) (hs : s ≠ "")
  | number (d : DecimalText)
  | shape (s : ShapeText)
  | header (h : HeaderText)

namespace Value

/-- The kind of a value. -/
def kind : Value → ValueKind
  | flag => .nothing
  | text _ => .text
  | path .. => .path
  | number _ => .number
  | shape _ => .shape
  | header _ => .header

/-- How a value is written, if it is more than that the option is given. -/
def text? : Value → Option String
  | flag => none
  | text s => some s
  | path s _ => some s
  | number d => some d.text
  | shape s => some s.text
  | header h => some h.text

/-- What a value is read as. -/
def setting : Value → Setting
  | flag => .on
  | text s => .text s
  | path s _ => .text s
  | number d => .number d.number
  | shape s => .selector s.selector
  | header h => .header h.name h.value

end Value

/-- An option with its value, as it is written. -/
def argument (o : OptionName) (x : Value) : String :=
  match x.text? with
  | none => "--" ++ o.word
  | some s => "--" ++ o.word ++ "=" ++ s

/-! ### Options with their values -/

/-- The values of an option among options with their values. -/
def valuesOf (items : List (OptionName × Value)) (o : OptionName) : List Value :=
  (items.filter fun item => item.1 = o).map Prod.snd

/-- The settings of options with their values. -/
def settings (items : List (OptionName × Value)) : Given :=
  items.map fun item => (item.1, item.2.setting)

section

variable (items others : List (OptionName × Value)) (o : OptionName) (x : Value)

theorem valuesOf_append : valuesOf (items ++ others) o = valuesOf items o ++ valuesOf others o := by
  rw [valuesOf, List.filter_append, List.map_append]
  rfl

theorem valuesOf_cons_self : valuesOf ((o, x) :: items) o = x :: valuesOf items o := by
  rw [valuesOf, List.filter_cons_of_pos (by simp), List.map_cons]
  rfl

theorem valuesOf_cons_of_ne {p : OptionName} (hp : p ≠ o) :
    valuesOf ((p, x) :: items) o = valuesOf items o := by
  rw [valuesOf, List.filter_cons_of_neg (by simpa using hp)]
  rfl

/-- The setting of an option is that of its first value. -/
theorem lookup_settings :
    (settings items).lookup o = (valuesOf items o).head?.map Value.setting := by
  induction items with
  | nil => rfl
  | cons item items ih =>
    obtain ⟨p, x⟩ := item
    by_cases hp : p = o
    · subst hp
      rw [valuesOf_cons_self]
      exact List.lookup_cons_self
    · rw [valuesOf_cons_of_ne items o x hp, ← ih, settings, List.map_cons, List.lookup_cons,
        beq_eq_false_iff_ne.2 (Ne.symm hp)]
      rfl

theorem Given.has_eq_isSome (g : Given) (o : OptionName) : g.has o = (g.lookup o).isSome := by
  induction g with
  | nil => rfl
  | cons item g ih =>
    obtain ⟨p, setting⟩ := item
    rw [Given.has, List.any_cons, ← Given.has, ih, List.lookup_cons]
    by_cases hp : p = o
    · simp [hp]
    · simp [hp, beq_eq_false_iff_ne.2 (Ne.symm hp)]

/-- The name and the value of a header. -/
def Value.header? : Value → Option (String × String)
  | header h => some (h.name, h.value)
  | _ => none

/-- The headers are the values of the option for headers. -/
theorem headers_settings :
    (settings items).headers = (valuesOf items .header).filterMap Value.header? := by
  induction items with
  | nil => rfl
  | cons item items ih =>
    obtain ⟨p, x⟩ := item
    by_cases hp : p = .header
    · subst hp
      rw [valuesOf_cons_self]
      cases x with
      | header h => exact congrArg (_ :: ·) ih
      | _ => exact ih
    · rw [valuesOf_cons_of_ne items .header x hp, ← ih, settings, List.map_cons, Given.headers]
      · rfl
      · exact fun _ _ heq => hp (Prod.mk.inj heq).1

end

/-! ### Reading values -/

theorem readSetting_decimal (d : DecimalText) :
    readSetting .number d.text = .ok (.number d.number) := by
  rw [readSetting, DecimalText.text, String.toList_ofList, readWord_zeros]

theorem readSetting_numeral (n : UInt64) :
    readSetting .number (numeral n.toNat) = .ok (.number n) := readSetting_decimal ⟨0, n⟩

/-- A value is read as what it stands for. -/
theorem Value.readSetting_eq (x : Value) :
    readSetting x.kind (x.text?.getD "") = .ok x.setting := by
  cases x with
  | flag => rfl
  | text s => rfl
  | path s hs => exact if_neg hs
  | number d => exact readSetting_decimal d
  | shape s =>
    change readSetting .shape s.text = _
    rw [readSetting, s.read_eq]
    rfl
  | header h =>
    change readSetting .header h.text = _
    rw [readSetting, h.read_eq]
    rfl

/-- Only what takes nothing is written without a value. -/
theorem Value.text?_eq_none_iff (x : Value) : x.text? = none ↔ x.kind = .nothing := by
  cases x <;> simp [text?, kind]

/-! ### Scanning arguments -/

theorem OptionName.equals_not_mem_word (o : OptionName) : '=' ∉ o.word.toList := by
  cases o <;> decide

theorem OptionName.word_ne_nil (o : OptionName) : o.word.toList ≠ [] := by
  cases o <;> decide

/-- The options of a command have different names. -/
theorem CommandName.find?_word (name : CommandName) : ∀ o ∈ name.options,
    name.options.find? (fun p => p.word == o.word) = some o := by
  cases name <;> decide

theorem CommandName.nodup_options (name : CommandName) : name.options.Nodup := by
  cases name <;> decide

/-- The values that may be given for an option of a command. -/
structure Fits (name : CommandName) (o : OptionName) (xs : List Value) : Prop where
  mem_options : xs ≠ [] → o ∈ name.options ∧ o ≠ .help
  kind_eq : ∀ x ∈ xs, x.kind = o.kind
  length_le : o.isRepeatable = false → xs.length ≤ 1

namespace Scan

variable {name : CommandName} {given : Given} {o : OptionName} {x : Value}

/-- An option with a value that it may have is accepted. -/
theorem accept_value (hkind : x.kind = o.kind)
    (hnew : o.isRepeatable = false → given.has o = false) :
    accept ⟨given, none, false⟩ o (x.text?.getD "") =
      .ok ⟨given ++ [(o, x.setting)], none, false⟩ := by
  have hrepeated : ¬(given.has o && !o.isRepeatable) = true := by
    rw [Bool.and_eq_true, Bool.not_eq_true', not_and']
    intro hrepeatable
    rw [hnew hrepeatable]
    exact Bool.false_ne_true
  rw [accept, if_neg hrepeated, ← hkind, x.readSetting_eq]

/-- What begins with two hyphens, and is more than that, is an option. -/
theorem step_long {command : Option CommandName} {options : List OptionName} {s : Scan}
    (hclosed : s.closed = false) {argument : String} {body : List Char} (hbody : body ≠ [])
    (hargument : argument.toList = '-' :: '-' :: body) :
    step command options s argument = s.longArgument command options body := by
  obtain ⟨c, cs, rfl⟩ := List.exists_cons_of_ne_nil hbody
  rw [step, if_neg (by simp [hclosed]), hargument]
  rfl

/-- An argument is read as what it has been written from. -/
theorem step_argument (hmem : o ∈ name.options ∧ o ≠ .help) (hkind : x.kind = o.kind)
    (hnew : o.isRepeatable = false → given.has o = false) :
    step (some name) name.options ⟨given, none, false⟩ (argument o x) =
      .ok ⟨given ++ [(o, x.setting)], none, false⟩ := by
  have haccept := accept_value hkind hnew
  have hfind := name.find?_word o hmem.1
  cases htext : x.text? with
  | none =>
    have hnothing : o.kind = .nothing := hkind.symm.trans (x.text?_eq_none_iff.1 htext)
    have hargument : (argument o x).toList = '-' :: '-' :: o.word.toList := by
      rw [argument, htext]
      exact String.toList_append
    rw [step_long rfl o.word_ne_nil hargument, longArgument, cut_eq_none o.equals_not_mem_word]
    simp only [String.ofList_toList, hfind, decide_eq_true hnothing]
    rw [htext] at haccept
    exact (if_neg hmem.2).trans haccept
  | some s =>
    have hsomething : o.kind ≠ .nothing := by
      rw [← hkind, Ne, ← x.text?_eq_none_iff, htext]
      exact Option.some_ne_none s
    have hargument : (argument o x).toList = '-' :: '-' :: (o.word.toList ++ '=' :: s.toList) := by
      rw [argument, htext, String.toList_append, String.toList_append, String.toList_append,
        List.append_assoc]
      rfl
    rw [step_long rfl (List.append_ne_nil_of_left_ne_nil o.word_ne_nil _) hargument, longArgument,
      cut_append_cons o.equals_not_mem_word]
    simp only [String.ofList_toList, hfind, decide_eq_false hsomething]
    rw [htext] at haccept
    exact haccept

/-- Arguments are read as what they have been written from, behind others. -/
theorem foldlM_arguments (before items : List (OptionName × Value))
    (hfits : ∀ o, Fits name o (valuesOf (before ++ items) o)) :
    (items.map fun item => argument item.1 item.2).foldlM (step (some name) name.options)
        ⟨settings before, none, false⟩ =
      .ok ⟨settings (before ++ items), none, false⟩ := by
  induction items generalizing before with
  | nil =>
    rw [List.append_nil]
    rfl
  | cons item items ih =>
    obtain ⟨o, x⟩ := item
    -- Among the values of the option there is this one, behind those that came before it.
    have hitem := hfits o
    rw [valuesOf_append, valuesOf_cons_self] at hitem
    have hmem : x ∈ valuesOf before o ++ x :: valuesOf items o :=
      List.mem_append_right _ List.mem_cons_self
    have hnew (honce : o.isRepeatable = false) : (settings before).has o = false := by
      have hlength := hitem.length_le honce
      rw [List.length_append, List.length_cons] at hlength
      have hnil : valuesOf before o = [] := List.eq_nil_of_length_eq_zero (by omega)
      rw [Given.has_eq_isSome, lookup_settings, hnil]
      rfl
    have hstep := step_argument (hitem.mem_options (List.ne_nil_of_mem hmem))
      (hitem.kind_eq x hmem) hnew
    have hsettings : settings before ++ [(o, x.setting)] = settings (before ++ [(o, x)]) := by
      rw [settings, settings, List.map_append]
      rfl
    have happend := List.append_cons before (o, x) items
    rw [List.map_cons, List.foldlM_cons, hstep, hsettings, happend]
    exact ih (before ++ [(o, x)]) (happend ▸ hfits)

end Scan

/-- What is given behind the name of a command says what the command is to do. -/
theorem Command.read_of_scan (v : Variables) {name : CommandName} {rest : List String}
    {given : Given} (h : Scan.run name name.options rest = .ok given) :
    Command.read v (name.word :: rest) = .ok (given.command v name) := by
  have hname : Command.named? name.word = some name := by cases name <;> decide
  have hother : name.word ≠ "--" ∧ name.word ≠ "help" := by cases name <;> decide
  unfold Command.read
  split
  · next heq => cases heq
  · next heq => exact absurd (List.cons.inj heq).1 hother.1
  · next heq => exact absurd (List.cons.inj heq).1 hother.2
  · next heq =>
    obtain ⟨rfl, rfl⟩ := List.cons.inj heq
    rw [hname]
    simp only
    rw [h]
    rfl

/-- Arguments behind the name of a command are read as what they have been written from. -/
theorem Command.read_arguments (v : Variables) {name : CommandName}
    {items : List (OptionName × Value)}
    (hfits : ∀ o, Fits name o (valuesOf items o)) :
    Command.read v (name.word :: items.map fun item => argument item.1 item.2) =
      .ok ((settings items).command v name) := by
  have hscan := Scan.foldlM_arguments [] items hfits
  rw [List.nil_append] at hscan
  refine Command.read_of_scan v ?_
  change (_ >>= fun s : Scan => s.settle >>= fun s => pure s.given) = _
  rw [Scan.start, show ([] : Given) = settings [] from rfl, hscan]
  rfl

end SyntheticLoad.CommandLine

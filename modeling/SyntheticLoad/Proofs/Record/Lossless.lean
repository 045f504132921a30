import SyntheticLoad.Proofs.Decimal.Finite
import SyntheticLoad.Proofs.Json.Printing
import SyntheticLoad.Proofs.Field.Conformance
import SyntheticLoad.Proofs.Text.ByteOrder
import SyntheticLoad.Proofs.Time.Instant
import SyntheticLoad.Record.Generator

/-!
# Nothing of an envelope is lost in its body

What a document has to hold to be that of a record is said without the writer: under the
same keys in the same order it holds what shows the values (`Record.Mirrors`). An integer is
a token that reads as it, an instant a date and time of day, a float some token if it is
finite.

The body of an envelope is a text of a document with its name and a mirror of its record, and
of no other document (`envelope_body_lossless`). A mirror determines a record that has no
float and no instant in it (`Record.Mirrors.determines`), so envelopes with such records have
different bodies unless they are equal. The keys of a record increase at every depth
(`Record.OrderedThroughout`), hence so do those of its mirror, by their bytes.
-/

namespace SyntheticLoad

open Json Text Time

/-! ### Mirrors -/

mutual

/-- A document holds a value. -/
inductive Value.Mirrors : Value → Json → Prop
  | text (s : String) : Value.Mirrors (.text s) (.text s)
  | int {n : Int64} {token : String} :
    NumberText token.toList → readInt64 token.toList = .ok n →
    Value.Mirrors (.int n) (.number token)
  | float {x : Float} {token : String} :
    x.isFinite = true → NumberText token.toList → Value.Mirrors (.float x) (.number token)
  | noNumber {x : Float} : x.isFinite = false → Value.Mirrors (.float x) .null
  | bool (b : Bool) : Value.Mirrors (.bool b) (.bool b)
  | instant {t : Instant} {s : String} : t.ShownBy s.toList → Value.Mirrors (.instant t) (.text s)
  | list (items : List String) : Value.Mirrors (.list items) (.array (items.map Json.text))
  | map {r : List (String × Value)} {members : List (String × Json)} :
    Record.Mirrors r members → Value.Mirrors (.map r) (.object members)

/-- The members of an object hold the entries of a record, in the same order. -/
inductive Record.Mirrors : List (String × Value) → List (String × Json) → Prop
  | nil : Record.Mirrors [] []
  | cons {key : String} {v : Value} {j : Json} {r : List (String × Value)}
    {members : List (String × Json)} :
    Value.Mirrors v j → Record.Mirrors r members →
    Record.Mirrors ((key, v) :: r) ((key, j) :: members)

end

theorem mirrors_ofFloat (x : Float) : (Value.float x).Mirrors (Json.ofFloat x) := by
  cases hx : x.isFinite with
  | true =>
    obtain ⟨negative, b, hbits⟩ := Decimal.ofBits_of_isFinite hx
    have htoken : NumberText (if negative then '-' :: magnitudeText b else magnitudeText b) := by
      split
      · exact .negative (unsignedText_magnitudeText b)
      · exact .positive (unsignedText_magnitudeText b)
    rw [ofFloat, hbits]
    refine .float hx ?_
    rwa [String.toList_ofList]
  | false =>
    rw [ofFloat]
    rcases Decimal.ofBits_of_not_isFinite hx with hbits | ⟨negative, hbits⟩ <;>
    · rw [hbits]
      exact .noNumber hx

mutual

/-- The document of a value holds it. -/
theorem Value.mirrors_toJson : ∀ v : Value, v.Mirrors v.toJson
  | .text s => by
    rw [Value.toJson]
    exact .text s
  | .int n => by
    rw [Value.toJson, ofInt]
    refine .int ?_ ?_
    · rw [String.toList_ofList]
      exact numberText_integer n.toInt
    · rw [String.toList_ofList]
      exact readInt64_integer n
  | .float x => by
    rw [Value.toJson]
    exact mirrors_ofFloat x
  | .bool b => by
    rw [Value.toJson]
    exact .bool b
  | .instant t => by
    rw [Value.toJson]
    refine .instant ?_
    rw [String.toList_ofList]
    exact t.shownBy_text
  | .list items => by
    rw [Value.toJson]
    exact .list items
  | .map r => by
    rw [Value.toJson]
    exact .map (Record.mirrors_entriesToJson r)

/-- The members that are made of the entries of a record hold them. -/
theorem Record.mirrors_entriesToJson : ∀ r : List (String × Value),
    Record.Mirrors r (Value.entriesToJson r)
  | [] => by
    rw [Value.entriesToJson]
    exact .nil
  | (key, v) :: r => by
    rw [Value.entriesToJson]
    exact .cons (Value.mirrors_toJson v) (Record.mirrors_entriesToJson r)

end

/-! ### Parts of a mirror -/

theorem part_of_texts {items : List String} {k : Json} (h : Part (.array (items.map Json.text)) k) :
    k = .array (items.map Json.text) ∨ ∃ s, k = .text s := by
  cases h with
  | self => exact .inl rfl
  | item hj hpart =>
    obtain ⟨s, -, rfl⟩ := List.mem_map.1 hj
    cases hpart
    exact .inr ⟨s, rfl⟩

mutual

theorem Value.Mirrors.sound : ∀ {v : Value} {j : Json}, v.Mirrors j → j.Sound
  | _, _, .text s => sound_text s
  | _, _, .int htoken _ => sound_number htoken
  | _, _, .float _ htoken => sound_number htoken
  | _, _, .noNumber _ => fun token hpart => by cases hpart
  | _, _, .bool b => fun token hpart => by cases hpart
  | _, _, .instant _ => sound_text _
  | _, _, .list items => fun token hpart => by
    rcases part_of_texts hpart with h | ⟨s, h⟩ <;> cases h
  | _, _, .map hr => sound_object (Record.Mirrors.sound hr)

/-- All numbers of a mirror are tokens of numbers. -/
theorem Record.Mirrors.sound : ∀ {r : List (String × Value)} {members : List (String × Json)},
    Record.Mirrors r members → ∀ m ∈ members, m.2.Sound
  | _, _, .nil => fun _ hm => absurd hm List.not_mem_nil
  | _, _, .cons hv hr => List.forall_mem_cons.2 ⟨hv.sound, Record.Mirrors.sound hr⟩

end

/-- The records that a record is made of, at every depth. -/
inductive Record.Within : Record → Record → Prop
  | self (r : Record) : Record.Within r r
  | under {r s u : Record} {key : String} :
    (key, Value.map s) ∈ r → Record.Within s u → Record.Within r u

/-- The keys increase at every depth. -/
def Record.OrderedThroughout (r : Record) : Prop := ∀ s, r.Within s → s.Ordered

theorem Record.OrderedThroughout.intro {r : Record} (h : r.Ordered)
    (hr : ∀ key s, (key, Value.map s) ∈ r → OrderedThroughout s) : r.OrderedThroughout := by
  intro s hs
  cases hs with
  | self => exact h
  | under hmem hs => exact hr _ _ hmem _ hs

/-- The members of every object of a document stand in increasing order of the bytes of their
    keys, so no key is repeated. -/
def Json.Sorted (j : Json) : Prop :=
  ∀ members, Part j (.object members) → members.Pairwise fun m m' => utf8 m.1 < utf8 m'.1

namespace Record.Mirrors

variable {r : Record} {members : List (String × Json)}

theorem keys (h : Record.Mirrors r members) : members.map Prod.fst = r.keys := by
  induction r generalizing members with
  | nil =>
    cases h
    rfl
  | cons e r ih =>
    cases h with
    | cons hv hr => exact congrArg _ (ih hr)

theorem member (h : Record.Mirrors r members) {m : String × Json} (hm : m ∈ members) :
    ∃ v, (m.1, v) ∈ r ∧ v.Mirrors m.2 := by
  induction r generalizing members with
  | nil =>
    cases h
    exact absurd hm List.not_mem_nil
  | cons e r ih =>
    cases h with
    | cons hv hr =>
      rcases List.mem_cons.1 hm with rfl | hm
      · exact ⟨_, List.mem_cons_self, hv⟩
      · obtain ⟨v, hmem, hv⟩ := ih hr hm
        exact ⟨v, List.mem_cons_of_mem _ hmem, hv⟩

/-- The objects in a mirror are the mirrors of the records within. -/
theorem object (h : Record.Mirrors r members) {inner : List (String × Json)}
    (hpart : Part (.object members) (.object inner)) :
    ∃ s, r.Within s ∧ Record.Mirrors s inner := by
  generalize hj : Json.object members = j at hpart
  generalize hk : Json.object inner = k at hpart
  induction hpart generalizing r members with
  | self j =>
    subst hk
    cases hj
    exact ⟨r, .self r, h⟩
  | item => cases hj
  | @member _ m _ hm hpart ih =>
    cases hj
    obtain ⟨key, j⟩ := m
    obtain ⟨v, hmem, hv⟩ := h.member hm
    -- Only a nested record has objects in its mirror.
    cases hv with
    | map hr =>
      obtain ⟨s, hs, hinner⟩ := ih hr rfl hk
      exact ⟨s, .under hmem hs, hinner⟩
    | list items =>
      subst hk
      rcases part_of_texts hpart with hobject | ⟨s, hobject⟩ <;> cases hobject
    | _ =>
      subst hk
      cases hpart

theorem sorted (h : Record.Mirrors r members) (hordered : r.OrderedThroughout) :
    (Json.object members).Sorted := by
  intro inner hpart
  obtain ⟨s, hs, hinner⟩ := h.object hpart
  have hkeys : s.keys.Pairwise (· < ·) := List.pairwise_map.2 (hordered s hs)
  rw [← hinner.keys, List.pairwise_map] at hkeys
  exact hkeys.imp fun hlt => utf8_lt_utf8 hlt

end Record.Mirrors

/-! ### Records that are determined by their mirrors -/

/-- A value that is neither a float nor an instant, and has none in it. -/
inductive Value.Exact : Value → Prop
  | text (s : String) : Value.Exact (.text s)
  | int (n : Int64) : Value.Exact (.int n)
  | bool (b : Bool) : Value.Exact (.bool b)
  | list (items : List String) : Value.Exact (.list items)
  | map {r : List (String × Value)} : (∀ e ∈ r, Value.Exact e.2) → Value.Exact (.map r)

/-- No value of a record is a float or an instant, at any depth. -/
def Record.Exact (r : Record) : Prop := ∀ e ∈ r, e.2.Exact

theorem Value.Mirrors.of_array {v : Value} {js : List Json} (h : v.Mirrors (.array js)) :
    ∃ items, v = .list items ∧ js = items.map Json.text := by
  cases h
  exact ⟨_, rfl, rfl⟩

theorem map_text_injective {items items' : List String}
    (h : items.map Json.text = items'.map Json.text) : items = items' :=
  (List.map_inj_right fun _ _ heq => Json.text.inj heq).1 h

mutual

theorem Value.Mirrors.determines : ∀ {v : Value} {j : Json}, v.Mirrors j → v.Exact →
    ∀ {v' : Value}, v'.Mirrors j → v'.Exact → v = v'
  | _, _, .text s, _, _, h', he' => by
    -- An instant is shown as a text, too.
    cases h' with
    | text => rfl
    | instant => cases he'
  | _, _, .int _ hread, _, _, h', he' => by
    -- A float is shown as a number, too.
    cases h' with
    | int _ hread' => rw [Except.ok.inj (hread.symm.trans hread')]
    | float => cases he'
  | _, _, .float _ _, he, _, _, _ => by cases he
  | _, _, .noNumber _, he, _, _, _ => by cases he
  | _, _, .bool b, _, _, h', _ => by
    cases h'
    rfl
  | _, _, .instant _, he, _, _, _ => by cases he
  | _, _, .list items, _, _, h', _ => by
    obtain ⟨items', rfl, heq⟩ := h'.of_array
    rw [map_text_injective heq]
  | _, _, .map hr, .map he, _, h', he' => by
    cases h' with
    | map hr' =>
      cases he' with
      | map he' => rw [Record.Mirrors.determines hr he hr' he']

/-- Records without floats and instants that have the same mirror are the same. -/
theorem Record.Mirrors.determines : ∀ {r : List (String × Value)} {members : List (String × Json)},
    Record.Mirrors r members → Record.Exact r → ∀ {r' : List (String × Value)},
    Record.Mirrors r' members → Record.Exact r' → r = r'
  | _, _, .nil, _, _, h', _ => by
    cases h'
    rfl
  | _, _, .cons hv hr, he, _, h', he' => by
    cases h' with
    | cons hv' hr' =>
      obtain ⟨hev, her⟩ := List.forall_mem_cons.1 he
      obtain ⟨hev', her'⟩ := List.forall_mem_cons.1 he'
      rw [hv.determines hev hv' hev', Record.Mirrors.determines hr her hr' her']

end

/-! ### Envelopes -/

/-- The document of an envelope whose record has the given members. -/
def envelopeDocument (name : String) (members : List (String × Json)) : Json :=
  .object [("schema_name", .text name), ("data", .object members)]

theorem sound_envelopeDocument {name : String} {members : List (String × Json)}
    (h : ∀ m ∈ members, m.2.Sound) : (envelopeDocument name members).Sound := by
  refine sound_object (List.forall_mem_cons.2 ⟨sound_text name, ?_⟩)
  exact List.forall_mem_singleton.2 (sound_object h)

theorem Envelope.sound_toJson (e : Envelope) : e.toJson.Sound :=
  sound_envelopeDocument (Record.mirrors_entriesToJson e.data).sound

theorem Envelope.toList_body (e : Envelope) : e.body.toList = e.toJson.compact :=
  String.toList_ofList

/-- The body of an envelope is a text of its document. -/
theorem Envelope.document_body (e : Envelope) :
    Document (envelopeDocument e.schemaName (Value.entriesToJson e.data)) e.body.toList := by
  rw [e.toList_body]
  exact document_compact e.sound_toJson

theorem Envelope.body_injective {e e' : Envelope} (he : e.data.Exact) (he' : e'.data.Exact)
    (hbody : e.body = e'.body) : e = e' := by
  -- One text has only one document, so both records have the same mirror.
  have hdoc := e.document_body
  rw [hbody] at hdoc
  have heq := hdoc.unique e'.document_body
  simp only [envelopeDocument, Json.object.injEq, List.cons.injEq, Prod.mk.injEq,
    Json.text.injEq, true_and, and_true] at heq
  obtain ⟨hname, hmembers⟩ := heq
  have hmirror := Record.mirrors_entriesToJson e.data
  rw [hmembers] at hmirror
  have hdata := hmirror.determines he (Record.mirrors_entriesToJson e'.data) he'
  obtain ⟨name, data⟩ := e
  obtain ⟨name', data'⟩ := e'
  obtain rfl : name = name' := hname
  obtain rfl : data = data' := hdata
  rfl

/-! ### What generators hand out -/

section

open SyntheticLoad.Random

variable {σ : Type} [WordSource σ] (now : Instant)

theorem orderedThroughout_ofEntries {entries : List (String × Value)}
    (h : ∀ key s, (key, Value.map s) ∈ entries → Record.OrderedThroughout s) :
    (Record.ofEntries entries).OrderedThroughout :=
  .intro (Record.ofEntries_ordered entries) fun key s hmem => h key s (Record.mem_ofEntries hmem)

/-- What is drawn for a kind without nested fields is no record. -/
theorem FieldKind.always_leaf {kind : FieldKind} (h : kind.type ≠ .map) :
    Attempt.Always (kind.draw now : Attempt σ Value)
      fun v => ∀ s, v = .map s → Record.OrderedThroughout s :=
  (FieldKind.always_draw now kind).mono fun v hv s hmap => by
    subst hmap
    exact absurd hv.1.symm h

mutual

/-- The records among what is drawn are ordered at every depth. -/
theorem FieldKind.always_ordered : ∀ kind : FieldKind,
    Attempt.Always (kind.draw now : Attempt σ Value)
      fun v => ∀ s, v = .map s → Record.OrderedThroughout s
  | .uuid => FieldKind.always_leaf now (by decide)
  | .letters _ => FieldKind.always_leaf now nofun
  | .alphanumeric _ => FieldKind.always_leaf now nofun
  | .template _ => FieldKind.always_leaf now nofun
  | .intRange _ _ => FieldKind.always_leaf now nofun
  | .floatRange _ _ => FieldKind.always_leaf now nofun
  | .bool => FieldKind.always_leaf now nofun
  | .oneOf _ => FieldKind.always_leaf now nofun
  | .oneOfInt _ => FieldKind.always_leaf now nofun
  | .recentInstant _ => FieldKind.always_leaf now nofun
  | .selection _ _ _ => FieldKind.always_leaf now nofun
  | .textList _ _ _ => FieldKind.always_leaf now nofun
  | .nested fields => by
    rw [FieldKind.draw]
    refine Attempt.always_bind (FieldKind.always_ordered_entries fields) fun entries h =>
      Attempt.always_pure ?_
    rintro s ⟨⟩
    exact orderedThroughout_ofEntries h
  | .randomKeys count keyLength low high => by
    rw [FieldKind.draw]
    refine Attempt.always_bind (Attempt.always_attempt
      (Draw.always_times (always_randomEntry_text keyLength low high) count)) fun entries h =>
      Attempt.always_pure ?_
    rintro s ⟨⟩
    refine orderedThroughout_ofEntries fun key s hmem => ?_
    -- Under random keys there are texts only.
    obtain ⟨text, htext⟩ := h.2 _ hmem
    cases htext

theorem FieldKind.always_ordered_entries : ∀ fields : List (String × FieldKind),
    Attempt.Always (FieldKind.drawEntries now fields : Attempt σ (List (String × Value)))
      fun entries => ∀ key s, (key, Value.map s) ∈ entries → Record.OrderedThroughout s
  | [] => by
    rw [FieldKind.drawEntries]
    exact Attempt.always_pure fun _ _ hmem => absurd hmem List.not_mem_nil
  | (name, kind) :: fields => by
    rw [FieldKind.drawEntries]
    refine Attempt.always_bind (FieldKind.always_ordered kind) fun v hv =>
      Attempt.always_bind (FieldKind.always_ordered_entries fields) fun entries h =>
        Attempt.always_pure fun key s hmem => ?_
    rcases List.mem_cons.1 hmem with heq | hmem
    · exact hv s (Prod.mk.inj heq).2.symm
    · exact h key s hmem

end

/-- The record of an envelope that is drawn is ordered at every depth. -/
theorem Selector.always_ordered (selector : Selector) :
    Attempt.Always (selector.drawEnvelope now : Attempt σ Envelope)
      fun e => e.data.OrderedThroughout := by
  have hrecord : ∀ fields, Attempt.Always (drawRecord now fields : Attempt σ Record)
      Record.OrderedThroughout := fun fields =>
    Attempt.always_bind (FieldKind.always_ordered_entries now fields) fun _ h =>
      Attempt.always_pure (orderedThroughout_ofEntries h)
  have hselected : Attempt.Always (selector.draw now : Attempt σ (Shape × Record))
      fun p => p.2.OrderedThroughout :=
    Attempt.always_bind Attempt.always_true fun shape _ =>
      Attempt.always_bind (hrecord shape.fields) fun _ h => Attempt.always_pure h
  exact Attempt.always_bind hselected fun _ h => Attempt.always_pure h

end

/-- What a generator hands out is ordered at every depth. -/
theorem Generator.orderedThroughout_envelope {g g' : Generator} {selector : Selector} {e : Envelope}
    (h : g.envelope selector = .ok (e, g')) : e.data.OrderedThroughout := by
  rw [envelope, perform] at h
  cases hrun : (selector.drawEnvelope g.now).run g.words with
  | error fault =>
    rw [hrun] at h
    cases h
  | ok p =>
    rw [hrun] at h
    cases h
    exact selector.always_ordered g.now g.words _ _ hrun

/-! ### Bodies -/

/-- **Nothing of an envelope is lost in its body.** The body is a text of exactly one document,
    which is also what the reader makes of it: an object with the name of the schema and the
    data, in this order, where the data mirrors the record. If the keys of the record increase
    at every depth, as they do in all that a generator hands out, so do those of every object
    in the data, compared by their bytes. And two envelopes that have neither floats nor
    instants in their records are equal if their bodies have the same bytes. -/
theorem envelope_body_lossless (e : Envelope) :
    (∃ members, Record.Mirrors e.data members ∧
      Document (envelopeDocument e.schemaName members) e.body.toList ∧
      (∀ j, Document j e.body.toList → j = envelopeDocument e.schemaName members) ∧
      Json.parse e.body.toList = some (envelopeDocument e.schemaName members) ∧
      (e.data.OrderedThroughout → (Json.object members).Sorted)) ∧
    (∀ g g' selector, Generator.envelope g selector = .ok (e, g') → e.data.OrderedThroughout) ∧
    ∀ e' : Envelope, e.data.Exact → e'.data.Exact → utf8 e.body = utf8 e'.body → e = e' := by
  have hmirror := Record.mirrors_entriesToJson e.data
  have hdoc := e.document_body
  refine ⟨⟨Value.entriesToJson e.data, hmirror, hdoc, fun j hj => hj.unique hdoc, hdoc.parse_eq,
    hmirror.sorted⟩, fun g g' selector h => Generator.orderedThroughout_envelope h,
    fun e' he he' hbytes => Envelope.body_injective he he' ?_⟩
  exact utf8_injective hbytes

/-- An envelope with characters to escape, the least integer, and a nested record, whose
    entries are given in two orders. -/
theorem envelope_body_lossless_of_escapes :
    let inner : Record := [("list", .list ["", "\x08\t"]), ("yes", .bool true)]
    let e : Envelope := ⟨"a \"name\"", [("", .text "C:\\dir\n"), ("int", .int Int64.minValue),
      ("ü", .map inner)]⟩
    let e' : Envelope := ⟨"a \"name\"", Record.ofEntries [("ü", .map inner),
      ("", .text "C:\\dir\n"), ("int", .int Int64.minValue)]⟩
    (∃ members, Record.Mirrors e.data members ∧ (Json.object members).Sorted ∧
      Json.parse e.body.toList = some (envelopeDocument e.schemaName members)) ∧ e = e' := by
  intro inner e e'
  obtain ⟨⟨members, hmirror, -, -, hparse, hsorted⟩, -, hequal⟩ := envelope_body_lossless e
  have hinner : Record.OrderedThroughout inner :=
    .intro (by decide) fun key s hmem => by simp [inner] at hmem
  have hordered : e.data.OrderedThroughout := .intro (by decide) fun key s hmem => by
    obtain ⟨-, rfl⟩ : key = "ü" ∧ s = inner := by simpa [e] using hmem
    exact hinner
  have hexact : e.data.Exact := by
    simp only [e, inner, Record.Exact, List.forall_mem_cons, List.not_mem_nil, false_implies,
      implies_true, and_true]
    refine ⟨.text _, .int _, .map ?_⟩
    simp only [List.forall_mem_cons, List.not_mem_nil, false_implies, implies_true, and_true]
    exact ⟨.list _, .bool _⟩
  have hsame : e'.data = e.data := by rfl
  exact ⟨⟨members, hmirror, hsorted hordered, hparse⟩, hequal e' hexact (hsame ▸ hexact) (by rfl)⟩

end SyntheticLoad

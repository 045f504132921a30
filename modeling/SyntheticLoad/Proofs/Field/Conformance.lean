import Mathlib.Data.List.Forall2
import SyntheticLoad.Field.Draw
import SyntheticLoad.Proofs.Field.Primitives
import SyntheticLoad.Proofs.Record.Entries

/-!
# Records conform to their fields

What the value of a kind is like is said once for every kind (`FieldKind.Admits`),
and what a record of some fields is like in terms of it (`Record.Conforms`): it has
the declared names as keys and no others, and under each name a value of the kind
that was declared for it last. A nested record conforms to its own fields.

Every value that is drawn for a kind is admitted by it (`FieldKind.always_draw`):
by induction over kinds and lists of fields together, as nested fields are drawn.
The entries drawn for a list of fields stand in the order of the fields, so the last
entry of a name belongs to its last declaration (`Matches.lookup`).
-/

namespace SyntheticLoad

open SyntheticLoad.Random Time SyntheticLoad.Field

/-! ### What is declared -/

/-- The kind that is declared for a name; the last one, if there are several. -/
def declaredKind (fields : List Field) (name : String) : Option FieldKind :=
  fields.reverse.lookup name

/-- An entry of a record of random keys: a word of letters and digits, and a text of them
    with a length between two bounds. -/
def IsRandomEntry (keyLength low high : Nat) (entry : String × Value) : Prop :=
  IsWord Char.isAlphanum keyLength entry.1 ∧
    ∃ s, entry.2 = .text s ∧ low ≤ s.length ∧ s.length ≤ high ∧ IsWord Char.isAlphanum s.length s

mutual

/-- What a value is like that is drawn for a kind when the time is `now`. -/
inductive FieldKind.Admits (now : Instant) : FieldKind → Value → Prop
  | uuid {s : String} : FieldKind.Admits now .uuid (.text s)
  | letters {n : Nat} {s : String} :
    IsWord Char.isAlpha n s → FieldKind.Admits now (.letters n) (.text s)
  | alphanumeric {n : Nat} {s : String} :
    IsWord Char.isAlphanum n s → FieldKind.Admits now (.alphanumeric n) (.text s)
  | template {t s : String} : FieldKind.Admits now (.template t) (.text s)
  | intRange {low high n : Int64} :
    (low ≤ high → low ≤ n ∧ n ≤ high) → FieldKind.Admits now (.intRange low high) (.int n)
  | floatRange {low high x : Float} : FieldKind.Admits now (.floatRange low high) (.float x)
  | bool {b : Bool} : FieldKind.Admits now .bool (.bool b)
  | oneOf {choices : List String} {s : String} :
    (choices ≠ [] → s ∈ choices) → FieldKind.Admits now (.oneOf choices) (.text s)
  | oneOfInt {choices : List Int64} {n : Int64} :
    (choices ≠ [] → n ∈ choices) → FieldKind.Admits now (.oneOfInt choices) (.int n)
  | recentInstant {days : UInt32} {t : Instant} :
    (Instant.firstSecond ≤ now.seconds - days.toNat * Instant.secondsPerDay →
      now.seconds ≤ Instant.lastSecond → InWindow now days t) →
    FieldKind.Admits now (.recentInstant days) (.instant t)
  | selection {pool items : List String} {low high : Nat} :
    FieldKind.Admits now (.selection pool low high) (.list items)
  | textList {low high length : Nat} {items : List String} :
    (low ≤ high → low ≤ items.length ∧ items.length ≤ high) →
    (∀ s ∈ items, IsWord Char.isAlphanum length s) →
    FieldKind.Admits now (.textList low high length) (.list items)
  | nested {fields : List Field} {r : Record} :
    Record.Conforms now fields r → FieldKind.Admits now (.nested fields) (.map r)
  | randomKeys {count keyLength low high : Nat} {r : Record} :
    r.Ordered →
    (low ≤ high → 1 ≤ count → 1 ≤ r.length ∧ r.length ≤ count ∧
      ∀ entry ∈ r, IsRandomEntry keyLength low high entry) →
    FieldKind.Admits now (.randomKeys count keyLength low high) (.map r)

/-- A record has the declared fields and no others, each with a value of its kind. -/
inductive Record.Conforms (now : Instant) : List Field → Record → Prop
  | intro {fields : List Field} {r : Record}
    (ordered : r.Ordered)
    (keys : ∀ name, name ∈ r.keys ↔ name ∈ fields.map Prod.fst)
    (types : ∀ name kind value, declaredKind fields name = some kind →
      r.find? name = some value → value.type = kind.type)
    (values : ∀ name kind value, declaredKind fields name = some kind →
      r.find? name = some value → FieldKind.Admits now kind value) : Record.Conforms now fields r

end

/-! ### Entries in the order of their fields -/

/-- Entries match fields: they have the names of the fields in the same order, and a value of
    its kind each. -/
def Matches (now : Instant) (fields : List Field) (entries : List (String × Value)) : Prop :=
  List.Forall₂ (fun f e => e.1 = f.1 ∧ e.2.type = f.2.type ∧ f.2.Admits now e.2) fields entries

namespace Matches

variable {now : Instant} {fields : List Field} {entries : List (String × Value)}

theorem keys (h : Matches now fields entries) : entries.map Prod.fst = fields.map Prod.fst := by
  induction h with
  | nil => rfl
  | cons hfe _ ih => rw [List.map_cons, List.map_cons, ih, hfe.1]

/-- The first entry of a name belongs to the first field of that name. -/
theorem lookup (h : Matches now fields entries) {name : String} {kind : FieldKind} {value : Value}
    (hk : fields.lookup name = some kind) (hv : entries.lookup name = some value) :
    value.type = kind.type ∧ kind.Admits now value := by
  induction h with
  | nil => cases hk
  | @cons f e fields entries hfe _ ih =>
    -- The names are the same at each place, so both searches stop at the same one.
    obtain ⟨hname, hvalue⟩ := hfe
    rw [List.lookup_cons] at hk hv
    rw [hname] at hv
    cases hn : name == f.1 with
    | true =>
      rw [hn] at hk hv
      cases hk
      cases hv
      exact hvalue
    | false =>
      rw [hn] at hk hv
      exact ih hk hv

/-- The record of matching entries conforms to the fields. -/
theorem conforms (h : Matches now fields entries) :
    Record.Conforms now fields (Record.ofEntries entries) := by
  -- The last declaration of a name is the first one from behind.
  have hrev : Matches now fields.reverse entries.reverse := List.forall₂_reverse_iff.2 h
  refine .intro (Record.ofEntries_ordered entries) (fun name => ?_)
    (fun name kind value hk hv => ?_) fun name kind value hk hv => ?_
  · rw [Record.mem_keys_ofEntries, h.keys]
  · rw [Record.find?_ofEntries] at hv
    exact (hrev.lookup hk hv).1
  · rw [Record.find?_ofEntries] at hv
    exact (hrev.lookup hk hv).2

end Matches

/-! ### Draws -/

section

variable {σ : Type} [WordSource σ] (now : Instant)

/-- The entries of a record of random keys. -/
theorem always_randomEntry {keyLength low high : Nat} (h : low ≤ high) :
    Draw.Always (randomEntry keyLength low high : Draw σ (String × Value))
      (IsRandomEntry keyLength low high) :=
  Draw.always_bind (always_alphanumeric keyLength) fun _ hkey =>
    Draw.always_bind (always_alphanumericBetween h) fun s hs =>
      Draw.always_pure ⟨hkey, s, rfl, hs⟩

/-- A record of random keys holds texts and nothing else. -/
theorem always_randomEntry_text (keyLength low high : Nat) :
    Draw.Always (randomEntry keyLength low high : Draw σ (String × Value))
      fun entry => ∃ s, entry.2 = .text s :=
  fun _ => ⟨_, rfl⟩

/-- Equal keys make a record of random entries smaller, but not empty. -/
theorem length_ofEntries_random {count keyLength low high : Nat} {entries : List (String × Value)}
    (h : entries.length = count ∧ ∀ entry ∈ entries, IsRandomEntry keyLength low high entry)
    (hcount : 1 ≤ count) :
    1 ≤ (Record.ofEntries entries).length ∧ (Record.ofEntries entries).length ≤ count ∧
      ∀ entry ∈ Record.ofEntries entries, IsRandomEntry keyLength low high entry := by
  obtain ⟨rfl, hall⟩ := h
  exact ⟨Record.length_ofEntries_pos hcount, Record.length_ofEntries_le entries,
    fun entry he => hall entry (Record.mem_ofEntries he)⟩

theorem always_randomKeys (count keyLength low high : Nat) :
    Draw.Always (Draw.times (randomEntry keyLength low high) count : Draw σ (List (String × Value)))
      fun entries => low ≤ high → 1 ≤ count →
        1 ≤ (Record.ofEntries entries).length ∧ (Record.ofEntries entries).length ≤ count ∧
          ∀ entry ∈ Record.ofEntries entries, IsRandomEntry keyLength low high entry :=
  fun s hle hcount =>
    length_ofEntries_random (Draw.always_times (always_randomEntry hle) count s) hcount

mutual

/-- What is drawn for a kind is of its type and admitted by it. -/
theorem FieldKind.always_draw : ∀ kind : FieldKind,
    Attempt.Always (kind.draw now : Attempt σ Value) fun v => v.type = kind.type ∧ kind.Admits now v
  | .uuid => by
    rw [FieldKind.draw]
    exact Attempt.always_bind Attempt.always_true fun _ _ =>
      Attempt.always_pure ⟨rfl, .uuid⟩
  | .letters n => by
    rw [FieldKind.draw]
    exact Attempt.always_bind (Attempt.always_attempt (always_letters n)) fun _ hs =>
      Attempt.always_pure ⟨rfl, .letters hs⟩
  | .alphanumeric n => by
    rw [FieldKind.draw]
    exact Attempt.always_bind (Attempt.always_attempt (always_alphanumeric n)) fun _ hs =>
      Attempt.always_pure ⟨rfl, .alphanumeric hs⟩
  | .template t => by
    rw [FieldKind.draw]
    exact Attempt.always_bind Attempt.always_true fun _ _ =>
      Attempt.always_pure ⟨rfl, .template⟩
  | .intRange low high => by
    rw [FieldKind.draw]
    exact Attempt.always_bind (Attempt.always_attempt (always_intInRange low high)) fun _ hn =>
      Attempt.always_pure ⟨rfl, .intRange hn⟩
  | .floatRange low high => by
    rw [FieldKind.draw]
    exact Attempt.always_bind Attempt.always_true fun _ _ =>
      Attempt.always_pure ⟨rfl, .floatRange⟩
  | .bool => by
    rw [FieldKind.draw]
    exact Attempt.always_bind Attempt.always_true fun _ _ =>
      Attempt.always_pure ⟨rfl, .bool⟩
  | .oneOf [] => by
    rw [FieldKind.draw]
    exact Attempt.always_pure ⟨rfl, .oneOf fun h => absurd rfl h⟩
  | .oneOf (s :: rest) => by
    rw [FieldKind.draw]
    exact Attempt.always_bind (Attempt.always_attempt (always_pick s rest)) fun _ hs =>
      Attempt.always_pure ⟨rfl, .oneOf fun _ => hs⟩
  | .oneOfInt choices => by
    rw [FieldKind.draw]
    exact Attempt.always_bind (Attempt.always_attempt (always_oneOfInts choices)) fun _ hn =>
      Attempt.always_pure ⟨rfl, .oneOfInt hn⟩
  | .recentInstant days => by
    rw [FieldKind.draw]
    exact Attempt.always_bind (Attempt.always_attempt (always_recentInstant now days)) fun _ ht =>
      Attempt.always_pure ⟨rfl, .recentInstant ht⟩
  | .selection pool low high => by
    rw [FieldKind.draw]
    exact Attempt.always_bind Attempt.always_true fun _ _ =>
      Attempt.always_pure ⟨rfl, .selection⟩
  | .textList low high length => by
    rw [FieldKind.draw]
    exact Attempt.always_bind (Attempt.always_attempt (always_textList low high length)) fun _ h =>
      Attempt.always_pure ⟨rfl, .textList h.1 h.2⟩
  | .nested fields => by
    rw [FieldKind.draw]
    exact Attempt.always_bind (FieldKind.always_drawEntries fields) fun _ h =>
      Attempt.always_pure ⟨rfl, .nested h.conforms⟩
  | .randomKeys count keyLength low high => by
    rw [FieldKind.draw]
    exact Attempt.always_bind
      (Attempt.always_attempt (always_randomKeys count keyLength low high)) fun entries h =>
      Attempt.always_pure ⟨rfl, .randomKeys (Record.ofEntries_ordered entries) h⟩

/-- The entries drawn for some fields match them. -/
theorem FieldKind.always_drawEntries : ∀ fields : List (String × FieldKind),
    Attempt.Always (FieldKind.drawEntries now fields : Attempt σ (List (String × Value)))
      (Matches now fields)
  | [] => by
    rw [FieldKind.drawEntries]
    exact Attempt.always_pure .nil
  | (name, kind) :: fields => by
    rw [FieldKind.drawEntries]
    exact Attempt.always_bind (FieldKind.always_draw kind) fun _ hv =>
      Attempt.always_bind (FieldKind.always_drawEntries fields) fun _ h =>
        Attempt.always_pure (.cons ⟨rfl, hv⟩ h)

end

/-- A record that is drawn for some fields conforms to them. -/
theorem always_drawRecord (fields : List Field) :
    Attempt.Always (drawRecord now fields : Attempt σ Record) (Record.Conforms now fields) :=
  Attempt.always_bind (FieldKind.always_drawEntries now fields) fun _ h =>
    Attempt.always_pure h.conforms

end

end SyntheticLoad

import SyntheticLoad.Proofs.Field.Conformance
import SyntheticLoad.Proofs.Field.Selection
import SyntheticLoad.Proofs.Template.Recognition
import SyntheticLoad.Random.Script
import SyntheticLoad.Record.Generator

/-!
# The shapes never break off

A value is not returned for three reasons only: a range of floats is not finite, a
number is to be padded to more than the widest field, or a selection takes so many items
of so long a pool that it may look for new ones for ever. All can be read off a kind
(`FieldKind.sound`), and a kind that has no such flaw returns a value from every
state of every source (`FieldKind.returns_draw`). The kinds of all shapes are sound
(`Shape.sound_fields`), so a generator returns for every shape, and what it returns
conforms to the fields of the shape (`records_conform`).
-/

namespace SyntheticLoad

open SyntheticLoad.Random Time SyntheticLoad.Field

/-! ### Flaws -/

mutual

/-- Whether a kind has no flaw: its ranges of floats are empty or finite, its templates have no
    field that is too wide, and its selections are small enough to be drawn without rejection. -/
def FieldKind.sound : FieldKind → Bool
  | .template t => (Segment.split t.toList).all Segment.fits
  | .floatRange low high => high ≤ low || (low ≤ high && (high - low).isFinite)
  | .selection pool _ high =>
    decide (pool.length < Width.w32.values ∧ min high pool.length < 163)
  | .nested fields => FieldKind.soundAll fields
  | _ => true

/-- Whether the kinds of some fields have no flaw. -/
def FieldKind.soundAll : List (String × FieldKind) → Bool
  | [] => true
  | (_, kind) :: fields => kind.sound && FieldKind.soundAll fields

end

/-! ### Sound kinds return -/

section

variable {σ : Type} [WordSource σ]

theorem returns_floatInRange {low high : Float}
    (h : high ≤ low ∨ (low ≤ high && (high - low).isFinite) = true) :
    Attempt.Returns (floatInRange low high : Attempt σ Float) := by
  unfold floatInRange
  split
  · exact Attempt.returns_pure _
  · next hlow =>
    refine Attempt.returns_bind ?_ fun _ => Attempt.returns_pure _
    unfold floatBetween
    rw [if_pos (h.resolve_left hlow)]
    exact Attempt.returns_bind (Attempt.returns_attempt _) fun _ => Attempt.returns_pure _

variable (now : Instant)

mutual

/-- A kind without a flaw returns a value from every state. -/
theorem FieldKind.returns_draw : ∀ kind : FieldKind, kind.sound →
    Attempt.Returns (kind.draw now : Attempt σ Value)
  | .uuid, _ | .letters _, _ | .alphanumeric _, _ | .intRange _ _, _ | .bool, _
  | .oneOf (_ :: _), _ | .oneOfInt _, _ | .recentInstant _, _ | .textList _ _ _, _
  | .randomKeys _ _ _ _, _ => by
    rw [FieldKind.draw]
    exact Attempt.returns_bind (Attempt.returns_attempt _) fun _ => Attempt.returns_pure _
  | .oneOf [], _ => by
    rw [FieldKind.draw]
    exact Attempt.returns_pure _
  | .template t, h => by
    rw [FieldKind.sound] at h
    rw [FieldKind.draw]
    exact Attempt.returns_bind (returns_expandAll h) fun _ => Attempt.returns_pure _
  | .floatRange low high, h => by
    rw [FieldKind.sound, Bool.or_eq_true, decide_eq_true_eq] at h
    rw [FieldKind.draw]
    exact Attempt.returns_bind (returns_floatInRange h) fun _ => Attempt.returns_pure _
  | .selection pool low high, h => by
    rw [FieldKind.sound, decide_eq_true_eq] at h
    rw [FieldKind.draw]
    exact Attempt.returns_bind (returns_selection h.1 h.2) fun _ => Attempt.returns_pure _
  | .nested fields, h => by
    rw [FieldKind.sound] at h
    rw [FieldKind.draw]
    exact Attempt.returns_bind (FieldKind.returns_drawEntries fields h) fun _ =>
      Attempt.returns_pure _

/-- Fields without a flaw return their entries from every state. -/
theorem FieldKind.returns_drawEntries : ∀ fields : List (String × FieldKind),
    FieldKind.soundAll fields →
    Attempt.Returns (FieldKind.drawEntries now fields : Attempt σ (List (String × Value)))
  | [], _ => by
    rw [FieldKind.drawEntries]
    exact Attempt.returns_pure _
  | (_, kind) :: fields, h => by
    rw [FieldKind.soundAll, Bool.and_eq_true] at h
    rw [FieldKind.drawEntries]
    exact Attempt.returns_bind (FieldKind.returns_draw kind h.1) fun _ =>
      Attempt.returns_bind (FieldKind.returns_drawEntries fields h.2) fun _ =>
        Attempt.returns_pure _

end

/-! ### The shapes -/

/-- No field of a shape has a flaw. -/
theorem Shape.sound_fields (shape : Shape) : FieldKind.soundAll shape.fields := by
  -- The templates are split and the spans of floats computed, so this is an evaluation.
  cases shape <;> decide +kernel

theorem Shape.returns_draw (shape : Shape) :
    Attempt.Returns (shape.draw now : Attempt σ Record) :=
  Attempt.returns_bind (FieldKind.returns_drawEntries now _ shape.sound_fields) fun _ =>
    Attempt.returns_pure _

theorem Selector.returns_draw (selector : Selector) :
    Attempt.Returns (selector.draw now : Attempt σ (Shape × Record)) :=
  Attempt.returns_bind (Attempt.returns_attempt _) fun shape =>
    Attempt.returns_bind (shape.returns_draw now) fun _ => Attempt.returns_pure _

theorem Selector.returns_drawEnvelope (selector : Selector) :
    Attempt.Returns (selector.drawEnvelope now : Attempt σ Envelope) :=
  Attempt.returns_bind (selector.returns_draw now) fun _ => Attempt.returns_pure _

end

/-! ### Generators -/

namespace Generator

/-- A generator performs what returns from every state, and keeps its clock. -/
theorem exists_perform {α : Type} (g : Generator) (attempt : Instant → Attempt Keystream α)
    (h : (attempt g.now).Returns) : ∃ a words,
      (attempt g.now).run g.words = .ok (a, words) ∧
        g.perform attempt = .ok (a, { g with words := words }) := by
  obtain ⟨a, words, ha⟩ := h g.words
  refine ⟨a, words, ha, ?_⟩
  rw [perform, ha]
  rfl

/-- A generator has an envelope for every selector. -/
theorem exists_envelope (g : Generator) (selector : Selector) :
    ∃ e g', g.envelope selector = .ok (e, g') := by
  obtain ⟨e, words, -, he⟩ := g.exists_perform (fun now => selector.drawEnvelope now)
    (selector.returns_drawEnvelope g.now)
  exact ⟨e, _, he⟩

end Generator

/-- **Every record conforms to its fields.** Whatever the source reads and whenever it is, a
    record that is drawn for some fields has their names as keys and no others, each with a
    value of the kind declared last for it, at every depth of nesting. For the fields of a
    shape a record is always drawn. -/
theorem records_conform {σ : Type} [WordSource σ] (now : Instant) :
    (∀ (fields : List Field) (s s' : σ) (r : Record),
      (drawRecord now fields).run s = .ok (r, s') → Record.Conforms now fields r) ∧
    (∀ (shape : Shape) (s : σ), ∃ r s',
      (shape.draw now).run s = .ok (r, s') ∧ Record.Conforms now shape.fields r) ∧
    ∀ (shape : Shape) (words : Keystream), ∃ r g',
      (Generator.mk words now).generate shape = .ok (r, g') ∧
        Record.Conforms now shape.fields r := by
  have hconf : ∀ (τ : Type) [WordSource τ] (fields : List Field) (s s' : τ) (r : Record),
      (drawRecord now fields).run s = .ok (r, s') → Record.Conforms now fields r :=
    fun τ _ fields s s' r h => always_drawRecord now fields s r s' h
  refine ⟨hconf σ, fun shape s => ?_, fun shape words => ?_⟩
  · obtain ⟨r, s', hr⟩ := shape.returns_draw now s
    exact ⟨r, s', hr, hconf σ shape.fields s s' r hr⟩
  · obtain ⟨r, words', hr, hg⟩ :=
      (Generator.mk words now).exists_perform (fun now => shape.draw now)
      (shape.returns_draw now)
    exact ⟨r, _, hg, hconf Keystream shape.fields words words' r hr⟩

/-- A name that is declared twice draws twice, and the nested record of the last declaration
    stands. -/
theorem records_conform_of_repeated_name :
    let fields : List Field := [("k", .oneOf ["x", "y"]), ("b", .bool),
      ("k", .nested [("n", .intRange 5 9)])]
    let r : Record := [("b", .bool true), ("k", .map [("n", .int 5)])]
    (∃ s', (drawRecord ⟨100000, 5⟩ fields).run (Script.ofList [7, 9223372036854775807]) =
        .ok (r, s')) ∧
      Record.Conforms ⟨100000, 5⟩ fields r := by
  intro fields r
  have hrun : (drawRecord ⟨100000, 5⟩ fields).run (Script.ofList [7, 9223372036854775807]) =
      .ok (r, ⟨[7, 9223372036854775807], [9223372036854775807]⟩) := by rfl
  exact ⟨⟨_, hrun⟩, (records_conform ⟨100000, 5⟩).1 fields _ _ r hrun⟩

end SyntheticLoad

import SyntheticLoad.Proofs.Field.TwoClocks
import SyntheticLoad.Proofs.Shape.Totality

/-!
# Generators with two clocks

A generator is asked for records, for records of a shape that it picks, and for
envelopes, and its clock may be replaced in between (`Use`). Two generators that read
the same words and are asked for the same things give results that are alike, whatever
their clocks show and whenever these are replaced: the same shapes, the same keys, and
the same values but for the instants (`clock_moves_instants_only`).

A single thing asked for takes the same words with either clock and is always given
(`Generator.fill_alike`); replacing a clock takes none. So the rest is an induction on
what is done with the two generators.
-/

namespace SyntheticLoad

open SyntheticLoad.Random Time

/-! ### What is asked for -/

/-- What a generator can be asked for. -/
inductive Order
  /-- A record of a shape. -/
  | record (shape : Shape)
  /-- A record of a shape that a selector gives. -/
  | selected (selector : Selector)
  | envelope (selector : Selector)
  deriving DecidableEq, Repr

/-- What a generator gives. -/
inductive Product
  | record (r : Record)
  | selected (shape : Shape) (r : Record)
  | envelope (e : Envelope)

/-- Products of the same shape and name, with records that are alike. -/
inductive Product.Alike (leaf : Instant → Instant → Prop) : Product → Product → Prop
  | record {r r' : Record} : Record.Alike leaf r r' → Product.Alike leaf (.record r) (.record r')
  | selected {shape : Shape} {r r' : Record} :
    Record.Alike leaf r r' → Product.Alike leaf (.selected shape r) (.selected shape r')
  | envelope {name : String} {r r' : Record} :
    Record.Alike leaf r r' → Product.Alike leaf (.envelope ⟨name, r⟩) (.envelope ⟨name, r'⟩)

/-- What is done with a generator. -/
inductive Use
  | order (o : Order)
  /-- Its clock is replaced. -/
  | setClock (now : Instant)
  deriving DecidableEq, Repr

/-- What is asked for, in order. -/
def Use.orders (uses : List Use) : List Order :=
  uses.filterMap fun
    | .order o => some o
    | .setClock _ => none

namespace Generator

/-- The generator gives what it is asked for. -/
def fill (g : Generator) : Order → Except Fault (Product × Generator)
  | .record shape => (g.generate shape).map fun (r, g) => (.record r, g)
  | .selected selector =>
    (g.generateSelected selector).map fun ((shape, r), g) => (.selected shape r, g)
  | .envelope selector => (g.envelope selector).map fun (e, g) => (.envelope e, g)

/-- What the generator gives when it is used so, each product with what the clock showed, and
    the generator after it. -/
def use (g : Generator) : List Use → Except Fault (List (Instant × Product) × Generator)
  | [] => .ok ([], g)
  | .setClock now :: uses => (g.withClock now).use uses
  | .order o :: uses => do
    let (product, g') ← g.fill o
    let (products, g') ← g'.use uses
    pure ((g.now, product) :: products, g')

end Generator

/-! ### One thing asked for -/

section

variable {σ : Type} [WordSource σ] (now now' : Instant)

/-- The instants of all shapes lie within the same number of days. -/
theorem Shape.farthest_fields (shape : Shape) :
    FieldKind.farthestOf shape.fields ≤ Shape.recentDays.toNat := by
  cases shape <;> decide

/-- The records of shapes that two clocks give. -/
abbrev Shape.Alike : Record → Record → Prop :=
  Record.Alike (Instant.EquallyFarBack Shape.recentDays.toNat now now')

theorem Shape.agree_draw (shape : Shape) :
    Attempt.Agree (Shape.Alike now now') (shape.draw now : Attempt σ Record) (shape.draw now') :=
  (agree_drawRecord now now' shape.fields).mono fun _ _ h =>
    h.mono fun _ _ ht => ht.mono shape.farthest_fields

theorem Selector.agree_draw (selector : Selector) :
    Attempt.Agree (fun p p' => p.1 = p'.1 ∧ Shape.Alike now now' p.2 p'.2)
      (selector.draw now : Attempt σ (Shape × Record)) (selector.draw now') :=
  Attempt.agree_bind_self fun shape =>
    Attempt.agree_bind (shape.agree_draw now now') fun _ _ h => Attempt.agree_pure ⟨rfl, h⟩

theorem Selector.agree_drawEnvelope (selector : Selector) :
    Attempt.Agree (fun e e' => e.schemaName = e'.schemaName ∧ Shape.Alike now now' e.data e'.data)
      (selector.drawEnvelope now : Attempt σ Envelope) (selector.drawEnvelope now') :=
  Attempt.agree_bind (selector.agree_draw now now') fun _ _ h =>
    Attempt.agree_pure ⟨congrArg Shape.name h.1, h.2⟩

end

namespace Generator

/-- Two generators at the same place of their words perform attempts that agree. -/
theorem perform_agree {α : Type} {R : α → α → Prop} {g g' : Generator}
    (attempt : Instant → Attempt Keystream α) (hwords : g.words = g'.words)
    (h : Attempt.Agree R (attempt g.now) (attempt g'.now)) (hr : (attempt g.now).Returns) :
    ∃ a a' words, g.perform attempt = .ok (a, { g with words := words }) ∧
      g'.perform attempt = .ok (a', { g' with words := words }) ∧ R a a' := by
  obtain ⟨a, a', words, ha, ha', hR⟩ := h.exists_run hr g.words
  refine ⟨a, a', words, ?_, ?_, hR⟩
  · rw [perform, ha]
    rfl
  · rw [perform, ← hwords, ha']
    rfl

/-- Two generators at the same place of their words give products that are alike, and come to
    the same place. -/
theorem fill_alike {g g' : Generator} (hwords : g.words = g'.words) (o : Order) :
    ∃ p p' words, g.fill o = .ok (p, { g with words := words }) ∧
      g'.fill o = .ok (p', { g' with words := words }) ∧
      Product.Alike (Instant.EquallyFarBack Shape.recentDays.toNat g.now g'.now) p p' := by
  cases o with
  | record shape =>
    obtain ⟨r, r', words, h, h', hR⟩ := perform_agree (fun now => shape.draw now)
      hwords (shape.agree_draw g.now g'.now) (shape.returns_draw g.now)
    refine ⟨.record r, .record r', words, ?_, ?_, .record hR⟩
    · rw [fill, generate, h]
      rfl
    · rw [fill, generate, h']
      rfl
  | selected selector =>
    obtain ⟨⟨shape, r⟩, ⟨shape', r'⟩, words, h, h', hshape, hR⟩ :=
      perform_agree (fun now => selector.draw now) hwords
        (selector.agree_draw g.now g'.now) (selector.returns_draw g.now)
    obtain rfl : shape = shape' := hshape
    refine ⟨.selected shape r, .selected shape r', words, ?_, ?_, .selected hR⟩
    · rw [fill, generateSelected, h]
      rfl
    · rw [fill, generateSelected, h']
      rfl
  | envelope selector =>
    obtain ⟨⟨name, r⟩, ⟨name', r'⟩, words, h, h', hname, hR⟩ :=
      perform_agree (fun now => selector.drawEnvelope now) hwords
        (selector.agree_drawEnvelope g.now g'.now) (selector.returns_drawEnvelope g.now)
    obtain rfl : name = name' := hname
    refine ⟨.envelope ⟨name, r⟩, .envelope ⟨name, r'⟩, words, ?_, ?_, .envelope hR⟩
    · rw [fill, Generator.envelope, h]
      rfl
    · rw [fill, Generator.envelope, h']
      rfl

/-! ### All that is asked for -/

theorem use_order {g g₁ g₂ : Generator} {o : Order} {uses : List Use} {p : Product}
    {ps : List (Instant × Product)} (hp : g.fill o = .ok (p, g₁))
    (hps : g₁.use uses = .ok (ps, g₂)) :
    g.use (.order o :: uses) = .ok ((g.now, p) :: ps, g₂) := by
  rw [use, hp]
  simp only [bind, Except.bind, hps]
  rfl

/-- The clocks that are set before the first thing asked for are of no account but the last. -/
theorem exists_use_eq (g : Generator) {uses : List Use} {o : Order} {os : List Order}
    (h : Use.orders uses = o :: os) : ∃ now rest,
      g.use uses = (g.withClock now).use (.order o :: rest) ∧ Use.orders rest = os := by
  induction uses generalizing g with
  | nil => cases h
  | cons u uses ih =>
    cases u with
    | order o' =>
      obtain ⟨rfl, hos⟩ := List.cons.inj h
      exact ⟨g.now, uses, rfl, hos⟩
    | setClock now =>
      obtain ⟨now', rest, huse, hrest⟩ := ih (g.withClock now) h
      exact ⟨now', rest, huse, hrest⟩

theorem use_of_orders_nil (g : Generator) {uses : List Use} (h : Use.orders uses = []) :
    ∃ now, g.use uses = .ok ([], g.withClock now) := by
  induction uses generalizing g with
  | nil => exact ⟨g.now, rfl⟩
  | cons u uses ih =>
    cases u with
    | order o => cases h
    | setClock now => exact ih (g.withClock now) h

/-- The products of two generators, each with what its clock showed. -/
abbrev Alike (d d' : Instant × Product) : Prop :=
  Product.Alike (Instant.EquallyFarBack Shape.recentDays.toNat d.1 d'.1) d.2 d'.2

/-- Two generators at the same place of their words, used for the same things. -/
theorem use_alike {os : List Order} {g g' : Generator} {uses uses' : List Use}
    (hwords : g.words = g'.words) (h : Use.orders uses = os) (h' : Use.orders uses' = os) :
    ∃ ps ps' k k', g.use uses = .ok (ps, k) ∧ g'.use uses' = .ok (ps', k') ∧
      k.words = k'.words ∧ List.Forall₂ Alike ps ps' := by
  -- The induction is on what is asked for, as clocks may be set any number of times in between.
  induction os generalizing g g' uses uses' with
  | nil =>
    obtain ⟨now, huse⟩ := g.use_of_orders_nil h
    obtain ⟨now', huse'⟩ := g'.use_of_orders_nil h'
    exact ⟨[], [], _, _, huse, huse', hwords, .nil⟩
  | cons o os ih =>
    obtain ⟨now, rest, huse, hrest⟩ := g.exists_use_eq h
    obtain ⟨now', rest', huse', hrest'⟩ := g'.exists_use_eq h'
    have hset : (g.withClock now).words = (g'.withClock now').words := hwords
    obtain ⟨p, p', words, hp, hp', halike⟩ := fill_alike hset o
    -- Both generators have taken the same words, so they go on from the same place.
    have hnext : ({ g.withClock now with words := words } : Generator).words =
        ({ g'.withClock now' with words := words } : Generator).words := rfl
    obtain ⟨ps, ps', k, k', hps, hps', hk, hall⟩ := ih hnext hrest hrest'
    have hhead : Alike (now, p) (now', p') := halike
    exact ⟨(now, p) :: ps, (now', p') :: ps', k, k', huse.trans (use_order hp hps),
      huse'.trans (use_order hp' hps'), hk, .cons hhead hall⟩

end Generator

/-- **The clock moves instants and nothing else.** Drawn from the same state of any source with
    two clocks, a record breaks off with both or with none, leaves the same state behind, and
    is the same but for its instants, which are equally far back from either clock. Two
    generators at the same place of their words that are asked for the same records, selected
    records and envelopes always give them: the same shapes and names, and records that are the
    same but for their instants, whatever the clocks show and whenever they are replaced. -/
theorem clock_moves_instants_only {σ : Type} [WordSource σ] :
    (∀ (now now' : Instant) (fields : List Field),
      Attempt.Agree (Record.Alike (Instant.EquallyFarBack (FieldKind.farthestOf fields) now now'))
        (drawRecord now fields : Attempt σ Record) (drawRecord now' fields)) ∧
    ∀ (g g' : Generator) (uses uses' : List Use), g.words = g'.words →
      Use.orders uses = Use.orders uses' →
      ∃ ps ps' k k', g.use uses = .ok (ps, k) ∧ g'.use uses' = .ok (ps', k') ∧
        k.words = k'.words ∧ List.Forall₂ Generator.Alike ps ps' :=
  ⟨fun now now' fields => agree_drawRecord now now' fields,
    fun _ _ _ _ hwords horders => Generator.use_alike hwords horders rfl⟩

/-- A clock that is replaced between a user and an envelope, and one that never is. -/
theorem clock_moves_instants_only_of_replaced :
    let g : Generator := .ofSeed 7 ⟨1735689600, 250⟩
    let g' : Generator := .ofSeed 7 ⟨0, 0⟩
    let uses : List Use :=
      [.order (.record .user), .setClock ⟨-5, 999⟩, .order (.envelope .mixed)]
    let uses' : List Use := [.order (.record .user), .order (.envelope .mixed)]
    ∃ ps ps' k k', g.use uses = .ok (ps, k) ∧ g'.use uses' = .ok (ps', k') ∧
      k.words = k'.words ∧ List.Forall₂ Generator.Alike ps ps' := by
  intro g g' uses uses'
  exact (clock_moves_instants_only (σ := Keystream)).2 g g' uses uses' rfl rfl

end SyntheticLoad

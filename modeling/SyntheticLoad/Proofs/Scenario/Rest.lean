import SyntheticLoad.Proofs.Random.Uniform
import SyntheticLoad.Scenario.Choice

/-!
# Rests in whole milliseconds

A rest is a number of milliseconds between the whole milliseconds of the shortest and of the
longest rest, and the number is kept as a word of 64 bits (`run_drawRest`); each number between
them can be drawn (`exists_run_drawRest`). A rest is never longer than the longest one. But it
may be shorter than the shortest one: the part of a millisecond that the shortest one has left
over does not count, and a number that is no word wraps around. Only if neither can happen, or
if the shortest one is no rest at all, every rest is at least as long as it (`KeepsShortest`).
A wait for a rest is cut off after thirty years in any case.
-/

namespace SyntheticLoad

open SyntheticLoad.Random

namespace Time.Span

/-- The whole seconds of a span are a word of 64 bits. -/
def SecondsFit (s : Span) : Prop := s.nanos / 1000000000 < UInt64.size

theorem nanos_ofMillis_le_iff {ms : Nat} {s : Span} :
    (ofMillis ms).nanos ≤ s.nanos ↔ ms ≤ s.wholeMillis :=
  (Nat.le_div_iff_mul_le (by decide)).symm

theorem wholeMillis_le {s t : Span} (h : s.nanos ≤ t.nanos) : s.wholeMillis ≤ t.wholeMillis :=
  Nat.div_le_div_right h

/-- Of a span whose seconds are a word there are fewer milliseconds than raw draws. -/
theorem SecondsFit.wholeMillis_lt {s : Span} (h : s.SecondsFit) :
    s.wholeMillis + 1 < Width.w128.values := by
  simp only [SecondsFit, UInt64.size, wholeMillis, nanosPerMilli, Width.values] at *
  omega

end Time.Span

namespace Scenario

open Time

section

variable {shortest longest : Span}

/-- Without room between the bounds a rest is the shortest one, and nothing is drawn. -/
theorem run_drawRest_of_le {σ : Type} [WordSource σ] (h : longest.nanos ≤ shortest.nanos) (s : σ) :
    (drawRest shortest longest).run s = (shortest, s) := by
  rw [drawRest, if_pos h]
  rfl

section

variable (h : shortest.nanos < longest.nanos)

include h

/-- A rest is so many milliseconds, as a word, from the whole milliseconds of the shortest one
    on. -/
theorem run_drawRest {σ : Type} [WordSource σ] (s : σ) :
    ((drawRest shortest longest).run s).1 = .ofMillis ((shortest.wholeMillis +
      ((offset .w128 (longest.wholeMillis - shortest.wholeMillis + 1)).run s).1) %
        UInt64.size) := by
  rw [drawRest, if_neg (Nat.not_le.2 h)]
  exact congrArg Span.ofMillis UInt64.toNat_ofNat'

theorem always_drawRest {σ : Type} [WordSource σ] :
    Draw.Always (drawRest shortest longest : Draw σ Span) fun rest =>
      ∃ ms, shortest.wholeMillis ≤ ms ∧ ms ≤ longest.wholeMillis ∧
        rest = .ofMillis (ms % UInt64.size) := by
  intro s
  have hle := Span.wholeMillis_le (Nat.le_of_lt h)
  have hk : ((offset .w128 (longest.wholeMillis - shortest.wholeMillis + 1)).run s).1 <
      longest.wholeMillis - shortest.wholeMillis + 1 := always_offset _ (Nat.succ_pos _) s
  exact ⟨_, Nat.le_add_right _ _, by omega, run_drawRest h s⟩

/-- Every number of milliseconds between the bounds is drawn from some words. -/
theorem exists_run_drawRest (hfit : longest.SecondsFit) {ms : Nat}
    (hlow : shortest.wholeMillis ≤ ms) (hhigh : ms ≤ longest.wholeMillis) :
    ∃ words, ((drawRest shortest longest).run (Script.ofList words)).1 =
      .ofMillis (ms % UInt64.size) := by
  have hroom : longest.wholeMillis - shortest.wholeMillis + 1 < Width.w128.values :=
    Nat.lt_of_le_of_lt (Nat.succ_le_succ (Nat.sub_le _ _)) hfit.wholeMillis_lt
  obtain ⟨words, hwords⟩ := exists_run_offset (k := ms - shortest.wholeMillis) hroom (by omega)
  refine ⟨words, ?_⟩
  rw [run_drawRest h, hwords, Nat.add_sub_cancel' hlow]

/-- No rest is longer than the longest one. -/
theorem always_le_longest {σ : Type} [WordSource σ] :
    Draw.Always (drawRest shortest longest : Draw σ Span) fun rest => rest.nanos ≤ longest.nanos :=
  (always_drawRest h).mono fun rest ⟨ms, _, hhigh, hrest⟩ => by
    rw [hrest]
    exact Span.nanos_ofMillis_le_iff.2 (Nat.le_trans (Nat.mod_le _ _) hhigh)

end

/-- What it takes for no rest to be shorter than the shortest one: that is no rest at all, or it
    is whole milliseconds, and those of the longest one are a word. -/
def KeepsShortest (shortest longest : Span) : Prop :=
  shortest.nanos = 0 ∨ (∃ ms, shortest = .ofMillis ms) ∧ longest.wholeMillis < UInt64.size

theorem KeepsShortest.always (hkeeps : KeepsShortest shortest longest)
    (h : shortest.nanos < longest.nanos) {σ : Type} [WordSource σ] :
    Draw.Always (drawRest shortest longest : Draw σ Span)
      fun rest => shortest.nanos ≤ rest.nanos := by
  rcases hkeeps with hzero | ⟨⟨low, rfl⟩, hword⟩
  · exact fun s => hzero ▸ Nat.zero_le _
  · refine (always_drawRest h).mono fun rest ⟨ms, hlow, hhigh, hrest⟩ => ?_
    have hwhole : low ≤ (Span.ofMillis low).wholeMillis :=
      Span.nanos_ofMillis_le_iff.1 (Nat.le_refl _)
    rw [hrest, Nat.mod_eq_of_lt (Nat.lt_of_le_of_lt hhigh hword)]
    exact Nat.mul_le_mul_right _ (Nat.le_trans hwhole hlow)

/-- If scripts give no rest that is shorter than the shortest one, then nothing does. -/
theorem keepsShortest_of_scripts (h : shortest.nanos < longest.nanos) (hfit : longest.SecondsFit)
    (hscripts : Draw.Always (drawRest shortest longest : Draw Script Span)
      fun rest => shortest.nanos ≤ rest.nanos) : KeepsShortest shortest longest := by
  have hle := Span.wholeMillis_le (Nat.le_of_lt h)
  have hdrawn : ∀ ms, shortest.wholeMillis ≤ ms → ms ≤ longest.wholeMillis →
      shortest.nanos ≤ (Span.ofMillis (ms % UInt64.size)).nanos := fun ms hlow hhigh => by
    obtain ⟨words, hwords⟩ := exists_run_drawRest h hfit hlow hhigh
    exact hwords ▸ hscripts (Script.ofList words)
  rw [KeepsShortest, or_iff_not_imp_left]
  intro hne
  -- The least rest is the whole milliseconds of the shortest one, so these are all of it.
  have hleast := hdrawn _ (Nat.le_refl _) hle
  have hwhole : (Span.ofMillis shortest.wholeMillis).nanos ≤ shortest.nanos :=
    Span.nanos_ofMillis_le_iff.2 (Nat.le_refl _)
  have hmod := Nat.mod_le shortest.wholeMillis UInt64.size
  simp only [Span.ofMillis, Span.nanosPerMilli] at hleast hwhole
  have heq : shortest.wholeMillis % UInt64.size = shortest.wholeMillis := by omega
  refine ⟨⟨shortest.wholeMillis, ?_⟩, Nat.lt_of_not_le fun hword => hne ?_⟩
  · exact congrArg Span.mk (show shortest.nanos = shortest.wholeMillis * 1000000 by omega)
  · -- The first number that is no word would be drawn, and is no rest at all.
    have hlow : shortest.wholeMillis < UInt64.size := by
      rw [← heq]
      exact Nat.mod_lt _ (by decide)
    have hnone := hdrawn _ (Nat.le_of_lt hlow) hword
    rw [Nat.mod_self] at hnone
    exact Nat.le_zero.1 hnone

end

/-- **Rests are drawn in whole milliseconds.** Without room between the bounds a rest is the
    shortest one, and nothing is drawn. Otherwise it is any number of milliseconds between the
    whole milliseconds of the bounds, as a word. It is never longer than the longest rest; and
    never shorter than the shortest one exactly if that is none or whole milliseconds, with a
    longest one whose milliseconds are a word. For the wait for a rest to be as long as the
    shortest one, that must moreover be no longer than any wait. -/
theorem rests_in_whole_millis (shortest longest : Span) (hfit : longest.SecondsFit) :
    (longest.nanos ≤ shortest.nanos → ∀ (σ : Type) [WordSource σ] (s : σ),
      (drawRest shortest longest).run s = (shortest, s)) ∧
    (shortest.nanos < longest.nanos →
      (∀ (σ : Type) [WordSource σ] (s : σ),
        ((drawRest shortest longest).run s).1.nanos ≤ longest.nanos ∧
        ∃ ms, shortest.wholeMillis ≤ ms ∧ ms ≤ longest.wholeMillis ∧
          ((drawRest shortest longest).run s).1 = .ofMillis (ms % UInt64.size)) ∧
      (∀ ms, shortest.wholeMillis ≤ ms → ms ≤ longest.wholeMillis →
        ∃ words, ((drawRest shortest longest).run (Script.ofList words)).1 =
          .ofMillis (ms % UInt64.size)) ∧
      ((∀ (σ : Type) [WordSource σ] (s : σ),
          shortest.nanos ≤ ((drawRest shortest longest).run s).1.nanos) ↔
        KeepsShortest shortest longest) ∧
      ((∀ (σ : Type) [WordSource σ] (s : σ),
          shortest.nanos ≤ ((drawRest shortest longest).run s).1.waited.nanos) ↔
        KeepsShortest shortest longest ∧ shortest.nanos ≤ Span.longestWait.nanos)) := by
  refine ⟨fun hle σ _ s => run_drawRest_of_le hle s, fun hlt => ⟨fun σ _ s =>
    ⟨always_le_longest hlt s, always_drawRest hlt s⟩, fun ms hlow hhigh =>
    exists_run_drawRest hlt hfit hlow hhigh, ⟨fun hall => ?_, fun hkeeps σ _ s =>
    hkeeps.always hlt s⟩, ⟨fun hall => ⟨?_, ?_⟩, fun ⟨hkeeps, hwait⟩ σ _ s => ?_⟩⟩⟩
  · exact keepsShortest_of_scripts hlt hfit (hall Script)
  · exact keepsShortest_of_scripts hlt hfit fun s =>
      Nat.le_trans (hall Script s) (Nat.min_le_left _ _)
  · exact Nat.le_trans (hall Script (Script.ofList [])) (Nat.min_le_right _ _)
  · exact Nat.le_min.2 ⟨hkeeps.always hlt s, hwait⟩

/-- Bounds with parts of a millisecond, bounds of which the longest has more milliseconds than
    there are words, and bounds that all rests keep to. -/
theorem rests_in_whole_millis_of_parts :
    let shortest : Span := ⟨1500000⟩
    let longest : Span := ⟨1900000⟩
    shortest.nanos < longest.nanos ∧ longest.SecondsFit ∧
      ((drawRest shortest longest).run (Script.ofList [0])).1 = .ofMillis 1 ∧
      ¬(∀ (σ : Type) [WordSource σ] (s : σ),
        shortest.nanos ≤ ((drawRest shortest longest).run s).1.nanos) ∧
      (∃ words, ((drawRest (.ofMillis 1) (.ofMillis UInt64.size)).run (Script.ofList words)).1 =
        .ofMillis 0) ∧
      ∀ s : Script, (Span.ofMillis 1000).nanos ≤
        ((drawRest (.ofMillis 1000) (.ofMillis 3000)).run s).1.nanos := by
  intro shortest longest
  have hlt : shortest.nanos < longest.nanos := by decide
  have hfit : longest.SecondsFit := by
    rw [Span.SecondsFit]
    decide
  have hwide : (Span.ofMillis UInt64.size).SecondsFit := by
    rw [Span.SecondsFit]
    decide
  have hplain : (Span.ofMillis 3000).SecondsFit := by
    rw [Span.SecondsFit]
    decide
  have hnot : ¬KeepsShortest shortest longest := by
    rintro (hzero | ⟨⟨ms, hms⟩, -⟩)
    · exact absurd hzero (by decide)
    · have hnanos : 1500000 = ms * 1000000 := congrArg Span.nanos hms
      omega
  have hall := ((rests_in_whole_millis shortest longest hfit).2 hlt).2.2.1
  obtain ⟨words, hwords⟩ := ((rests_in_whole_millis (.ofMillis 1) _ hwide).2 (by decide)).2.1
    UInt64.size (by decide) (by decide)
  rw [Nat.mod_self] at hwords
  have hkept := ((rests_in_whole_millis (.ofMillis 1000) _ hplain).2 (by decide)).2.2.1
  exact ⟨hlt, hfit, by decide, mt hall.1 hnot, ⟨words, hwords⟩,
    fun s => hkept.2 (.inr ⟨⟨1000, rfl⟩, by decide⟩) Script s⟩

end Scenario

end SyntheticLoad

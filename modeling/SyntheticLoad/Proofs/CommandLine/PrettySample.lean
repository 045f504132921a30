import SyntheticLoad.Proofs.CommandLine.Sample
import SyntheticLoad.Proofs.Json.Layout

/-!
# Pretty samples

A sample can be printed with every envelope over several lines. That only lays the bodies out:
without the spaces and line breaks outside of literals the lines are the bodies again, and what
stands inside of literals is the same to the last character (`pretty_sample_lays_out_bodies`).
As the line breaks between envelopes are outside of literals, too, this also holds of all that
is printed.
-/

namespace SyntheticLoad

open CommandLine Json Text Time

/-- The pretty text of an envelope is its body laid out. -/
theorem Envelope.laidOut_pretty (e : Envelope) :
    LaidOut e.toJson.toPrettyText.toList e.body.toList := by
  rw [e.toList_body, Json.toPrettyText, String.toList_ofList]
  exact Json.laidOut_pretty 0 e.toJson e.sound_toJson

/-- Lines that are laid out texts are all these texts laid out. -/
theorem laidOut_join_lines {α : Type} {line : α → String} {text : α → List Char} {items : List α}
    (h : ∀ a ∈ items, LaidOut (line a).toList (text a)) :
    LaidOut (String.join (items.map fun a => line a ++ "\n")).toList (items.flatMap text) := by
  induction items with
  | nil => exact .nil
  | cons a items ih =>
    obtain ⟨ha, hitems⟩ := List.forall_mem_cons.1 h
    rw [List.map_cons, String.join_cons, String.toList_append, String.toList_append,
      List.flatMap_cons]
    exact (ha.append_newLine 0).append (ih hitems)

namespace CommandLine.SamplePlan

/-- The envelopes of a sample do not depend on how they are printed. -/
theorem exists_both_lines (p : SamplePlan) (seed : UInt64) (now : Instant) :
    ∃ es : List Envelope,
      ({ p with pretty := true } : SamplePlan).output seed now =
        .ok (String.join (es.map fun e => e.toJson.toPrettyText ++ "\n")) ∧
      ({ p with pretty := false } : SamplePlan).output seed now =
        .ok (String.join (es.map fun e => e.body ++ "\n")) := by
  obtain ⟨es, hpretty, hes⟩ := ({ p with pretty := true } : SamplePlan).exists_lines seed now
  obtain ⟨es', hcompact, hes'⟩ := ({ p with pretty := false } : SamplePlan).exists_lines seed now
  obtain rfl : es = es' :=
    (List.map_inj_right fun _ _ heq => Except.ok.inj heq).1 (hes.trans hes'.symm)
  exact ⟨es, hpretty, hcompact⟩

end CommandLine.SamplePlan

/-- **A pretty sample lays out bodies.** For every envelope, the pretty line without the spaces
    and line breaks outside of its literals is the compact line, which is the body, and both
    have the same inside of their literals. The same holds of all that a sample prints, for
    any number of envelopes. -/
theorem pretty_sample_lays_out_bodies (p : SamplePlan) :
    let pretty : SamplePlan := { p with pretty := true }
    let compact : SamplePlan := { p with pretty := false }
    (∀ e : Envelope,
      compact.line e = e.body ∧
      withoutLayout (pretty.line e).toList = (compact.line e).toList ∧
      literalText (pretty.line e).toList = literalText (compact.line e).toList) ∧
    ∀ seed now, ∃ (es : List Envelope) (prettyOutput compactOutput : String),
      pretty.output seed now = .ok prettyOutput ∧ compact.output seed now = .ok compactOutput ∧
      compactOutput = String.join (es.map fun e => e.body ++ "\n") ∧
      withoutLayout prettyOutput.toList = es.flatMap (·.body.toList) ∧
      literalText prettyOutput.toList = literalText compactOutput.toList := by
  refine ⟨fun e => ⟨rfl, e.laidOut_pretty.withoutLayout_eq, e.laidOut_pretty.literalText_eq⟩,
    fun seed now => ?_⟩
  obtain ⟨es, hpretty, hcompact⟩ := p.exists_both_lines seed now
  have hprettyLines := laidOut_join_lines fun e (_ : e ∈ es) => e.laidOut_pretty
  have hcompactLines := laidOut_join_lines fun e (_ : e ∈ es) => e.laidOut_pretty.self
  exact ⟨es, _, _, hpretty, hcompact, rfl, hprettyLines.withoutLayout_eq,
    hprettyLines.literalText_eq.trans hcompactLines.literalText_eq.symm⟩

end SyntheticLoad

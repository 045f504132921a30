import Mathlib.Data.List.Nodup
import SyntheticLoad.Proofs.Json.Indentation
import SyntheticLoad.Proofs.Summary.Tally
import SyntheticLoad.Proofs.Text.NumeralForm
import SyntheticLoad.Proofs.Time.Instant
import SyntheticLoad.Summary.Document

/-!
# Nothing of a summary is lost in its file

What an object has to hold to be the document of a summary is said without the writer
(`Summary.HeldBy`): which members there are and in which order, a token for each counter that
reads as it, an object of counts with the statuses as keys, and texts that show the start and
the end.

The file of a summary is a text of such an object and of no other document. What an object holds
determines the counters and the counts by status (`HeldBy.determines`), so these can be had from
the file again, whatever their size.
-/

namespace SyntheticLoad

open Json Text Time

/-! ### Documents -/

namespace Json

/-- The number of 64 bits that a document is. -/
def word? : Json → Option UInt64
  | .number token => (readWord token.toList).toOption
  | _ => none

theorem word?_ofNat (n : UInt64) : (ofNat n.toNat).word? = some n := by
  rw [ofNat, word?, String.toList_ofList]
  exact congrArg Except.toOption (readWord_zeros 0 n)

end Json

namespace Summary

/-! ### The members of a summary -/

/-- The counters of a summary, other than those by status, with their names. -/
def counters (s : Summary) : List (String × UInt64) :=
  [("total", s.total), ("successes", s.successes), ("errors", s.errors),
    ("transport_errors", s.transportErrors), ("duration_ms", s.durationMs)]

/-- The members of an object hold a summary. -/
structure HeldBy (s : Summary) (members : List (String × Json)) : Prop where
  /-- The members stand in a fixed order, and the end comes last if there is one. -/
  keys : members.map Prod.fst = ["total", "successes", "errors", "transport_errors",
    "status_counts", "duration_ms", "started_at"] ++
      if s.completedAt.isSome then ["completed_at"] else []
  /-- The counters are read exactly. -/
  counters : ∀ c ∈ s.counters, (members.lookup c.1).bind word? = some c.2
  /-- The counts by status have the statuses as keys, and are read exactly. -/
  statuses : ∃ counts, members.lookup "status_counts" = some (.object counts) ∧
    counts.map (fun m => (m.1, m.2.word?)) =
      s.statusCounts.map fun e => (numeral e.1.toNat, some e.2)
  started : ∃ text, members.lookup "started_at" = some (.text text) ∧
    s.startedAt.ShownBy text.toList
  completed : ∀ t ∈ s.completedAt, ∃ text, members.lookup "completed_at" = some (.text text) ∧
    t.ShownBy text.toList

/-- The document of a summary holds it. -/
theorem heldBy_toJson (s : Summary) : ∃ members, s.toJson = .object members ∧ s.HeldBy members := by
  refine ⟨_, rfl, ?_, ?_, ⟨_, rfl, ?_⟩, ⟨_, rfl, ?_⟩, ?_⟩
  · rw [completedMember]
    cases s.completedAt <;> rfl
  · intro c hc
    simp only [counters, List.mem_cons, List.not_mem_nil, or_false] at hc
    rcases hc with rfl | rfl | rfl | rfl | rfl <;> exact word?_ofNat _
  · rw [List.map_map]
    refine List.map_congr_left fun e _ => ?_
    exact congrArg (Prod.mk _) (word?_ofNat e.2)
  · rw [String.toList_ofList]
    exact s.startedAt.shownBy_text
  · intro t ht
    refine ⟨String.ofList t.text, ?_, ?_⟩
    · rw [completedMember, ht]
      rfl
    · rw [String.toList_ofList]
      exact t.shownBy_text

theorem sound_toJson (s : Summary) : s.toJson.Sound := by
  have hcounts : ∀ m ∈ s.statusCounts.map statusMember, m.2.Sound := by
    intro m hm
    obtain ⟨e, -, rfl⟩ := List.mem_map.1 hm
    exact sound_ofNat _
  have hcompleted : ∀ m ∈ s.completedMember, m.2.Sound := by
    intro m hm
    rw [completedMember] at hm
    split at hm
    · cases hm
    · rw [List.mem_singleton.1 hm]
      exact sound_text _
  rw [toJson]
  refine sound_object (List.forall_mem_append.2 ⟨?_, hcompleted⟩)
  simp only [List.forall_mem_cons]
  exact ⟨sound_ofNat _, sound_ofNat _, sound_ofNat _, sound_ofNat _, sound_object hcounts,
    sound_ofNat _, sound_text _, List.forall_mem_nil _⟩

namespace HeldBy

variable {s t : Summary} {members : List (String × Json)}

/-- The counters are what is read under their names. -/
theorem map_counters (h : s.HeldBy members) : s.counters.map (fun c => (c.1, some c.2)) =
    (s.counters.map Prod.fst).map fun name => (name, (members.lookup name).bind word?) := by
  rw [List.map_map]
  exact List.map_congr_left fun c hc => congrArg (Prod.mk c.1) (h.counters c hc).symm

/-- What an object holds determines the counts of a summary. -/
theorem determines (hs : s.HeldBy members) (ht : t.HeldBy members) :
    s.counters = t.counters ∧ s.statusCounts = t.statusCounts := by
  constructor
  · refine List.map_injective_iff.2 (fun c c' h => ?_) (hs.map_counters.trans ht.map_counters.symm)
    obtain ⟨hname, hvalue⟩ := Prod.mk.inj h
    exact Prod.ext hname (Option.some.inj hvalue)
  · obtain ⟨counts, hlookup, hcounts⟩ := hs.statuses
    obtain ⟨counts', hlookup', hcounts'⟩ := ht.statuses
    obtain rfl : counts = counts' :=
      Json.object.inj (Option.some.inj (hlookup.symm.trans hlookup'))
    refine List.map_injective_iff.2 (fun e e' h => ?_) (hcounts.symm.trans hcounts')
    obtain ⟨hkey, hvalue⟩ := Prod.mk.inj h
    exact Prod.ext (UInt16.toNat_inj.1 (numeral_injective hkey)) (Option.some.inj hvalue)

/-- The keys of the counts by status are the numerals of increasing numbers. -/
theorem increasing (h : s.HeldBy members) (hordered : s.statusCounts.Ordered) :
    ∃ counts, members.lookup "status_counts" = some (.object counts) ∧
      ∃ codes : List Nat, counts.map Prod.fst = codes.map numeral ∧ codes.Pairwise (· < ·) := by
  obtain ⟨counts, hlookup, hcounts⟩ := h.statuses
  refine ⟨counts, hlookup, s.statusCounts.map fun e => e.1.toNat, ?_, ?_⟩
  · have hkeys := congrArg (List.map Prod.fst) hcounts
    rw [List.map_map, List.map_map] at hkeys
    rw [List.map_map]
    exact hkeys
  · exact hordered.codes

end HeldBy

/-- **Nothing of a summary is lost in its file.** The file of a summary is a text of one document
    only, and is read as it: an object that holds the summary (`HeldBy`). The keys of its counts
    by status are the numerals of increasing numbers, so none of them is repeated. A summary with
    the same file has the same counters and the same counts by status. -/
theorem file_keeps_summary (s : Summary) (hordered : s.statusCounts.Ordered) :
    ∃ members, Document (.object members) s.fileText.toList ∧
      (∀ j, Document j s.fileText.toList → j = .object members) ∧
      parse s.fileText.toList = some (.object members) ∧
      s.HeldBy members ∧
      (∃ counts, members.lookup "status_counts" = some (.object counts) ∧
        (counts.map Prod.fst).Nodup ∧
        ∃ codes : List Nat, counts.map Prod.fst = codes.map numeral ∧ codes.Pairwise (· < ·)) ∧
      ∀ t : Summary, t.fileText = s.fileText →
        t.counters = s.counters ∧ t.statusCounts = s.statusCounts := by
  have hdocument (t : Summary) : Document t.toJson t.fileText.toList := by
    rw [fileText, toPrettyText, String.toList_ofList]
    exact document_pretty t.sound_toJson 0
  obtain ⟨members, hmembers, hheld⟩ := s.heldBy_toJson
  have hdoc := hdocument s
  rw [hmembers] at hdoc
  refine ⟨members, hdoc, fun j hj => hj.unique hdoc, hdoc.parse_eq, hheld, ?_, fun t hfile => ?_⟩
  · obtain ⟨counts, hlookup, codes, hkeys, hcodes⟩ := hheld.increasing hordered
    refine ⟨counts, hlookup, ?_, codes, hkeys, hcodes⟩
    have hnodup : codes.Nodup := hcodes.imp Nat.ne_of_lt
    rw [hkeys]
    exact hnodup.map numeral_injective
  · -- One text is that of one document, so both summaries are held by the same members.
    obtain ⟨members', hmembers', hheld'⟩ := t.heldBy_toJson
    have hdoc' := hdocument t
    rw [hfile, hmembers'] at hdoc'
    obtain rfl := Json.object.inj (hdoc'.unique hdoc)
    exact hheld'.determines hheld

/-- Statuses of unequal lengths, counts that no float is exact enough for, and a summary that has
    counted nothing and has not ended. -/
theorem file_keeps_summary_of_statuses :
    let now : Instant := ⟨1700000000, 0⟩
    let s : Summary := { start 18446744073709551615 now with
      successes := 9007199254740993
      statusCounts := [(99, 1), (200, 9007199254740993), (1000, 2)]
      completedAt := some now }
    s.fileText ≠ { s with successes := 9007199254740992 }.fileText ∧
      (∃ members, parse s.fileText.toList = some (.object members) ∧
        (members.lookup "total").bind word? = some 18446744073709551615 ∧
        (members.map Prod.fst).getLast? = some "completed_at" ∧
        ∃ counts, members.lookup "status_counts" = some (.object counts) ∧
          counts.map Prod.fst = [99, 200, 1000].map numeral) ∧
      ∃ members, parse (start 0 now).fileText.toList = some (.object members) ∧
        (members.map Prod.fst).getLast? = some "started_at" ∧
        members.lookup "status_counts" = some (.object []) := by
  intro now s
  obtain ⟨members, -, -, hparse, hheld, -, hdetermines⟩ := file_keeps_summary s (by decide)
  obtain ⟨members', -, -, hparse', hheld', -⟩ := file_keeps_summary (start 0 now) (by decide)
  refine ⟨fun heq => ?_, ⟨members, hparse, hheld.counters ("total", s.total) List.mem_cons_self,
    ?_, ?_⟩, members', hparse', ?_, ?_⟩
  · exact absurd (hdetermines _ heq.symm).1 (by decide)
  · rw [hheld.keys]
    rfl
  · obtain ⟨counts, hlookup, hcounts⟩ := hheld.statuses
    have hkeys := congrArg (List.map Prod.fst) hcounts
    rw [List.map_map] at hkeys
    exact ⟨counts, hlookup, hkeys⟩
  · rw [hheld'.keys]
    rfl
  · obtain ⟨counts, hlookup, hcounts⟩ := hheld'.statuses
    rw [hlookup, List.map_eq_nil_iff.1 hcounts]

end Summary

end SyntheticLoad

import Mathlib.Algebra.Group.Nat.Defs
import Mathlib.Tactic.SplitIfs
import SyntheticLoad.Field.Template
import SyntheticLoad.Proofs.Text.Cut
import SyntheticLoad.Proofs.Text.NumeralForm

/-!
# The grammar of placeholders

Which tokens name which placeholder, said without a reader (`PlaceholderText`). A token is
recognized exactly if the grammar has it, and then as the placeholder that it names there
(`Placeholder.ofToken?_eq_some_iff`); in particular, it names one placeholder at most.

A token is cut at its first colon, the range of an integer at its next one, and what is left of
that at its first minus sign. So the parts of a token have to be free of these characters, which
the numerals are: only the upper bound of a range may have a sign that is a minus.
-/

namespace SyntheticLoad.Field

open Text

/-! ### Tokens -/

/-- The length of a text, or the width of a field: a number of 64 bits. -/
def SizeText (n : Nat) (cs : List Char) : Prop := IsUnsigned cs n ∧ n < 2 ^ 64

/-- A range that is not empty. What stands before the first minus sign is its lower bound, which
    for that reason has none itself. -/
inductive RangeText : Int64 → Int64 → List Char → Prop
  | mk {low high : Int64} {n : Nat} {cs ds : List Char} :
    IsUnsigned cs n → low.toInt = n → IsSigned ds high → low ≤ high →
    RangeText low high (cs ++ '-' :: ds)

/-- The tokens that name a placeholder. -/
inductive PlaceholderText : Placeholder → List Char → Prop
  | uuid : PlaceholderText .uuid "uuid".toList
  | letters {n : Nat} {size : List Char} :
    SizeText n size → PlaceholderText (.letters n) ("letters".toList ++ ':' :: size)
  | lower {n : Nat} {size : List Char} :
    SizeText n size → PlaceholderText (.lower n) ("lower".toList ++ ':' :: size)
  | alnum {n : Nat} {size : List Char} :
    SizeText n size → PlaceholderText (.alnum n) ("alnum".toList ++ ':' :: size)
  | capital {n : Nat} {size : List Char} :
    SizeText n size → PlaceholderText (.capital n) ("capital".toList ++ ':' :: size)
  | int {low high : Int64} {range : List Char} :
    RangeText low high range → PlaceholderText (.int low high 0) ("int".toList ++ ':' :: range)
  | paddedInt {low high : Int64} {width : Nat} {range size : List Char} :
    RangeText low high range → SizeText width size →
    PlaceholderText (.int low high width) ("int".toList ++ ':' :: (range ++ ':' :: size))
  /-- Any text is a list of options, if only of one. -/
  | pick {first text : List Char} {others : List (List Char)} :
    text.splitOn '|' = first :: others →
    PlaceholderText (.pick first others) ("pick".toList ++ ':' :: text)

/-! ### Sizes and ranges -/

theorem readSize_eq_some_iff {n : Nat} {cs : List Char} :
    readSize cs = some n ↔ SizeText n cs := by
  have hbound : n ≤ maxWord ↔ n < 2 ^ 64 := by
    rw [maxWord]
    omega
  rw [SizeText, ← hbound, ← readNat_eq_ok_iff, readSize, toOption_eq_some_iff]

namespace RangeText

variable {low high : Int64} {cs : List Char}

theorem colon_not_mem (h : RangeText low high cs) : ':' ∉ cs := by
  obtain ⟨hlow, -, hhigh, -⟩ := h
  simp only [List.mem_append, List.mem_cons, not_or]
  exact ⟨hlow.not_mem rfl (by decide), by decide,
    hhigh.not_mem rfl (by decide) (by decide)⟩

/-- The bounds of a range are read off the texts around its first minus sign. -/
theorem iff_cut : RangeText low high cs ↔ ∃ as bs, cut '-' cs = some (as, bs) ∧
    (readInt64 as).toOption = some low ∧ (readInt64 bs).toOption = some high ∧ low ≤ high := by
  simp only [cut_eq_some_iff, toOption_eq_some_iff, readInt64_eq_ok_iff]
  constructor
  · rintro ⟨hlow, hn, hhigh, hle⟩
    exact ⟨_, _, ⟨rfl, hlow.not_mem rfl (by decide)⟩, ⟨_, .inl ⟨hlow, hn⟩⟩, hhigh, hle⟩
  · rintro ⟨as, bs, ⟨rfl, hminus⟩, ⟨n, ⟨hlow, hn⟩ | ⟨ds, rfl, -⟩⟩, hhigh, hle⟩
    · exact .mk hlow hn hhigh hle
    · exact absurd List.mem_cons_self hminus

end RangeText

/-- What is done with a range once the width is known. -/
theorem bounds_eq_some_iff {range : List Char} {width : Nat} {p : Placeholder} :
    ((cut '-' range).bind fun parts => (readInt64 parts.1).toOption.bind fun low =>
      (readInt64 parts.2).toOption.bind fun high =>
        if high < low then none else some (.int low high width)) = some p ↔
      ∃ low high, RangeText low high range ∧ p = .int low high width := by
  simp only [Option.bind_eq_some_iff, Prod.exists, Option.ite_none_left_eq_some, Int64.not_lt,
    RangeText.iff_cut, Option.some.injEq]
  constructor
  · rintro ⟨as, bs, hcut, low, hlow, high, hhigh, hle, rfl⟩
    exact ⟨low, high, ⟨as, bs, hcut, hlow, hhigh, hle⟩, rfl⟩
  · rintro ⟨low, high, ⟨as, bs, hcut, hlow, hhigh, hle⟩, rfl⟩
    exact ⟨as, bs, hcut, low, hlow, high, hhigh, hle, rfl⟩

namespace Placeholder

theorem ofRange?_of_range {low high : Int64} {range : List Char} (h : RangeText low high range) :
    ofRange? range = some (.int low high 0) := by
  rw [ofRange?, cut_eq_none h.colon_not_mem]
  exact bounds_eq_some_iff.2 ⟨low, high, h, rfl⟩

theorem ofRange?_of_padded {low high : Int64} {width : Nat} {range size : List Char}
    (h : RangeText low high range) (hsize : SizeText width size) :
    ofRange? (range ++ ':' :: size) = some (.int low high width) := by
  rw [ofRange?, cut_append_cons h.colon_not_mem]
  simp only [readSize_eq_some_iff.2 hsize]
  exact bounds_eq_some_iff.2 ⟨low, high, h, rfl⟩

theorem text_of_ofRange? {arg : List Char} {p : Placeholder} (h : ofRange? arg = some p) :
    PlaceholderText p ("int".toList ++ ':' :: arg) := by
  rw [ofRange?] at h
  rcases hcut : cut ':' arg with _ | ⟨range, size⟩
  · rw [hcut] at h
    obtain ⟨low, high, hrange, rfl⟩ := bounds_eq_some_iff.1 h
    exact .int hrange
  · rw [hcut] at h
    rcases hsize : readSize size with _ | width
    · simp [hsize] at h
    · simp only [hsize] at h
      obtain ⟨low, high, hrange, rfl⟩ := bounds_eq_some_iff.1 h
      rw [(cut_eq_some_iff.1 hcut).1]
      exact .paddedInt hrange (readSize_eq_some_iff.1 hsize)

end Placeholder

/-! ### Recognition -/

namespace Placeholder

/-- The reader of the token cuts it at the first colon, so what is recognized is a matter of
    the name before it. -/
theorem ofToken?_append {name : List Char} (h : ':' ∉ name) (arg : List Char) :
    ofToken? (name ++ ':' :: arg) =
      if name = "letters".toList then (readSize arg).map .letters
      else if name = "lower".toList then (readSize arg).map .lower
      else if name = "alnum".toList then (readSize arg).map .alnum
      else if name = "capital".toList then (readSize arg).map .capital
      else if name = "int".toList then ofRange? arg
      else if name = "pick".toList then
        match split '|' arg with
        | [] => none
        | first :: others => some (.pick first others)
      else none := by
  rcases hoptions : split '|' arg with _ | ⟨first, others⟩ <;>
    simp only [ofToken?, cut_append_cons h, hoptions]

theorem ofToken?_of_text {token : List Char} {p : Placeholder} (h : PlaceholderText p token) :
    ofToken? token = some p := by
  cases h with
  | uuid => rfl
  | letters hsize =>
    rw [ofToken?_append (by decide)]
    simp [readSize_eq_some_iff.2 hsize]
  | lower hsize =>
    rw [ofToken?_append (by decide)]
    simp [readSize_eq_some_iff.2 hsize]
  | alnum hsize =>
    rw [ofToken?_append (by decide)]
    simp [readSize_eq_some_iff.2 hsize]
  | capital hsize =>
    rw [ofToken?_append (by decide)]
    simp [readSize_eq_some_iff.2 hsize]
  | int hrange =>
    rw [ofToken?_append (by decide)]
    simp [ofRange?_of_range hrange]
  | paddedInt hrange hsize =>
    rw [ofToken?_append (by decide)]
    simp [ofRange?_of_padded hrange hsize]
  | pick hoptions =>
    rw [ofToken?_append (by decide)]
    simp [split_eq_splitOn, hoptions]

theorem text_of_ofToken? {token : List Char} {p : Placeholder} (h : ofToken? token = some p) :
    PlaceholderText p token := by
  rcases hcut : cut ':' token with _ | ⟨name, arg⟩
  · rw [ofToken?, hcut] at h
    simp only [Option.ite_none_right_eq_some, Option.some.injEq] at h
    obtain ⟨rfl, rfl⟩ := h
    exact .uuid
  · obtain ⟨rfl, hcolon⟩ := cut_eq_some_iff.1 hcut
    rw [ofToken?_append hcolon] at h
    split_ifs at h with hletters hlower halnum hcapital hint hpick
    · obtain ⟨n, hn, rfl⟩ := Option.map_eq_some_iff.1 h
      exact hletters ▸ .letters (readSize_eq_some_iff.1 hn)
    · obtain ⟨n, hn, rfl⟩ := Option.map_eq_some_iff.1 h
      exact hlower ▸ .lower (readSize_eq_some_iff.1 hn)
    · obtain ⟨n, hn, rfl⟩ := Option.map_eq_some_iff.1 h
      exact halnum ▸ .alnum (readSize_eq_some_iff.1 hn)
    · obtain ⟨n, hn, rfl⟩ := Option.map_eq_some_iff.1 h
      exact hcapital ▸ .capital (readSize_eq_some_iff.1 hn)
    · exact hint ▸ text_of_ofRange? h
    · rcases hoptions : split '|' arg with _ | ⟨first, others⟩
      · simp [hoptions] at h
      · rw [hoptions] at h
        obtain rfl := Option.some.inj h
        rw [split_eq_splitOn] at hoptions
        exact hpick ▸ .pick hoptions

/-- **The grammar of placeholders is what is recognized.** -/
theorem ofToken?_eq_some_iff {token : List Char} {p : Placeholder} :
    ofToken? token = some p ↔ PlaceholderText p token :=
  ⟨text_of_ofToken?, ofToken?_of_text⟩

theorem ofToken?_eq_none_iff {token : List Char} :
    ofToken? token = none ↔ ∀ p, ¬PlaceholderText p token := by
  simp [Option.eq_none_iff_forall_ne_some, ofToken?_eq_some_iff]

end Placeholder

end SyntheticLoad.Field

import Mathlib.Data.List.Basic
import SyntheticLoad.Proofs.Summary.Accounting
import SyntheticLoad.Proofs.Summary.Box
import SyntheticLoad.Proofs.Text.Grouped

/-!
# What a table tells

The table of a summary can be read. Its lines give back its rows, as none of the cells has a
character in it that divides cells or lines (`cells_boxText`); the words of a row give back the
numbers in it, without the commas between their groups; and by its label and its numbers a row is
told from those of other kinds (`Told.ofRow?`).

What is read is the whole tally (`tellings_boxText`): the statuses with their counts, the outcomes
without a status, if there are any, and the total with its two parts.
-/

namespace SyntheticLoad

open Text Time

/-- What a row of a table tells. -/
inductive Told
  /-- How often a status occurred. -/
  | status (code count : Nat)
  /-- How many outcomes had no status. -/
  | unanswered (count : Nat)
  /-- How many outcomes there were, and how many of them were successes and errors. -/
  | total (completed successes errors : Nat)
  deriving DecidableEq, Repr

namespace Told

/-- The number in a word, which is that of its digits. -/
def number? (word : List Char) : Option Nat :=
  match word.filter Char.isDigit with
  | [] => none
  | d :: ds => some (Nat.ofDigitChars 10 (d :: ds) 0)

/-- The numbers among the words of a cell. -/
def numbers (cell : List Char) : List Nat := (split ' ' cell).filterMap number?

/-- What the cells of a row tell, if they have the label and the numbers of a kind of rows. -/
def ofRow? (row : List Char × List Char) : Option Told :=
  match numbers row.1, numbers row.2 with
  | [code], [n] => if row.1 = "HTTP ".toList ++ digits code then some (.status code n) else none
  | [], [n] => if row.1 = "Transport error".toList then some (.unanswered n) else none
  | [], [n, a, b] => if row.1 = "TOTAL".toList then some (.total n a b) else none
  | _, _ => none

/-- The status that a row counts, with its count. -/
def status? : Told → Option (Nat × Nat)
  | .status code n => some (code, n)
  | _ => none

/-- The outcomes without a status that a row counts. -/
def unanswered? : Told → Option Nat
  | .unanswered n => some n
  | _ => none

/-- How many outcomes a row counts. -/
def count : Told → Nat
  | .status _ n => n
  | .unanswered n => n
  | .total n _ _ => n

/-! ### Numbers -/

theorem number?_of_filter {word : List Char} {n : Nat}
    (h : word.filter Char.isDigit = digits n) : number? word = some n := by
  obtain ⟨d, ds, hds⟩ := List.exists_cons_of_ne_nil (digits_ne_nil n)
  rw [number?, h, hds]
  show some (Nat.ofDigitChars 10 (d :: ds) 0) = some n
  rw [← hds, ofDigitChars_digits]

theorem number?_digits (n : Nat) : number? (digits n) = some n :=
  number?_of_filter (List.filter_eq_self.2 (digits_isDigit n))

theorem number?_grouped (n : Nat) : number? (grouped n) = some n :=
  number?_of_filter (filter_grouped (by decide) (fun _ h => h) n)

/-- A bracket in front of a number makes no difference. -/
theorem number?_bracket (n : Nat) : number? ('(' :: grouped n) = some n := by
  refine number?_of_filter ?_
  rw [List.filter_cons_of_neg (by decide)]
  exact filter_grouped (by decide) (fun _ h => h) n

theorem no_space_grouped (n : Nat) : ' ' ∉ grouped n := fun hmem =>
  absurd (eq_comma_or_isDigit_of_mem_grouped hmem) (by decide)

theorem numbers_grouped (n : Nat) : numbers (grouped n) = [n] := by
  rw [numbers, split_eq_singleton (no_space_grouped n),
    List.filterMap_cons_some (number?_grouped n), List.filterMap_nil]

theorem numbers_label (code : Nat) : numbers ("HTTP ".toList ++ digits code) = [code] := by
  have hspace : ' ' ∉ digits code := fun hmem => absurd (digits_isDigit code _ hmem) (by decide)
  have hlabel : "HTTP ".toList ++ digits code = ['H', 'T', 'T', 'P'] ++ ' ' :: digits code := rfl
  rw [numbers, hlabel, split_append_cons (by decide), split_eq_singleton hspace,
    List.filterMap_cons_none rfl, List.filterMap_cons_some (number?_digits code),
    List.filterMap_nil]

end Told

namespace Summary

open Told

/-! ### Rows -/

theorem numbers_totalRow (s : Summary) :
    numbers s.totalRow.2 = [s.completed.toNat, s.successes.toNat, s.errors.toNat] := by
  have hbracket : ' ' ∉ '(' :: grouped s.successes.toNat := by
    rw [List.mem_cons, not_or]
    exact ⟨by decide, no_space_grouped _⟩
  have hcell : s.totalRow.2 = grouped s.completed.toNat ++ ' ' ::
      ('(' :: grouped s.successes.toNat ++ ' ' :: (['o', 'k'] ++ ' ' :: (['/'] ++ ' ' ::
        (grouped s.errors.toNat ++ ' ' :: "failed)".toList)))) := by
    simp only [totalRow, List.append_assoc, List.cons_append]
    rfl
  rw [numbers, hcell, split_append_cons (no_space_grouped _), split_append_cons hbracket,
    split_append_cons (by decide), split_append_cons (by decide),
    split_append_cons (no_space_grouped _)]
  rw [List.filterMap_cons_some (number?_grouped _), List.filterMap_cons_some (number?_bracket _),
    List.filterMap_cons_none rfl, List.filterMap_cons_none rfl,
    List.filterMap_cons_some (number?_grouped _)]
  rfl

theorem ofRow?_statusRow (e : UInt16 × UInt64) :
    ofRow? (statusRow e) = some (.status e.1.toNat e.2.toNat) := by
  show ofRow? ("HTTP ".toList ++ digits e.1.toNat, grouped e.2.toNat) = _
  rw [ofRow?, numbers_label, numbers_grouped]
  exact if_pos rfl

theorem ofRow?_transport (n : Nat) :
    ofRow? ("Transport error".toList, grouped n) = some (.unanswered n) := by
  rw [ofRow?, numbers_grouped]
  rfl

theorem ofRow?_totalRow (s : Summary) :
    ofRow? s.totalRow = some (.total s.completed.toNat s.successes.toNat s.errors.toNat) := by
  rw [ofRow?, numbers_totalRow]
  rfl

/-! ### Cells -/

theorem plain_grouped (n : Nat) : Box.Plain (grouped n) := by
  refine .of_forall fun c hc hmem => ?_
  have hnone : ∀ c ∈ [' ', '┆', '\n'], ¬(c = ',' ∨ c.isDigit = true) := by simp
  exact hnone c hmem (eq_comma_or_isDigit_of_mem_grouped hc)

theorem plain_digits (n : Nat) : Box.Plain (digits n) := by
  refine .of_forall fun c hc hmem => ?_
  have hnone : ∀ c ∈ [' ', '┆', '\n'], ¬c.isDigit = true := by simp
  exact hnone c hmem (digits_isDigit n c hc)

theorem plain_statusRow (e : UInt16 × UInt64) :
    Box.Plain (statusRow e).1 ∧ Box.Plain (statusRow e).2 := by
  have hhttp : Box.Plain "HTTP".toList := by decide
  have hlabel : Box.Plain ("HTTP".toList ++ [' '] ++ digits e.1.toNat) :=
    hhttp.append_append (plain_digits _) (by decide) (digits_ne_nil _) (by decide) (by decide)
  exact ⟨hlabel, plain_grouped _⟩

theorem plain_totalRow (s : Summary) : Box.Plain s.totalRow.1 ∧ Box.Plain s.totalRow.2 := by
  have hbar (n : Nat) : '┆' ∉ grouped n := (plain_grouped n).no_bar
  have hbreak (n : Nat) : '\n' ∉ grouped n := (plain_grouped n).no_break
  have hbracket : Box.Plain [')'] := by decide
  have hcell : s.totalRow.2 = grouped s.completed.toNat ++
      (" (".toList ++ grouped s.successes.toNat ++ " ok / ".toList ++ grouped s.errors.toNat ++
        " failed".toList) ++ [')'] := by
    simp only [totalRow, List.append_assoc]
    rfl
  rw [hcell]
  have hlabel : Box.Plain "TOTAL".toList := by decide
  refine ⟨hlabel, (plain_grouped _).append_append hbracket (grouped_ne_nil _) (by decide) ?_ ?_⟩
  · simp [hbar]
  · simp [hbreak]

theorem plain_transportRow (s : Summary) :
    ∀ row ∈ s.transportRow, Box.Plain row.1 ∧ Box.Plain row.2 := by
  have hlabel : Box.Plain "Transport error".toList := by decide
  intro row hrow
  rw [transportRow] at hrow
  split at hrow
  · rw [List.mem_singleton.1 hrow]
    exact ⟨hlabel, plain_grouped _⟩
  · cases hrow

theorem rows_box (s : Summary) :
    s.box.rows = s.statusCounts.map statusRow ++ s.transportRow ++ [s.totalRow] := rfl

theorem plain_box (s : Summary) :
    ∀ row ∈ s.box.header :: s.box.rows, Box.Plain row.1 ∧ Box.Plain row.2 := by
  have hheader : Box.Plain "Outcome".toList ∧ Box.Plain "Count".toList := by decide
  intro row hrow
  simp only [rows_box, List.mem_cons, List.mem_append, List.mem_map, List.not_mem_nil, or_false]
    at hrow
  rcases hrow with rfl | (⟨e, -, rfl⟩ | hrow) | rfl
  · exact hheader
  · exact plain_statusRow e
  · exact plain_transportRow s row hrow
  · exact plain_totalRow s

/-! ### The table -/

/-- The text of the box of a summary. -/
def boxText (s : Summary) : String := "\n".intercalate (s.box.lines.map String.ofList)

/-- The lines of the box are those of its text. -/
theorem split_boxText (s : Summary) : split '\n' s.boxText.toList = s.box.lines := by
  have hlines : (s.box.lines.map String.ofList).map String.toList = s.box.lines := by
    simp
  rw [boxText, String.toList_intercalate, hlines, split_eq_splitOn]
  exact List.splitOn_intercalate '\n' (fun _ h => Box.no_break_of_mem_lines (plain_box s) h)
    (List.cons_ne_nil _ _)

/-- The cells that are read in a text. -/
def cells (text : String) : List (List Char × List Char) := Box.read (split '\n' text.toList)

/-- What the rows in a text tell. -/
def tellings (text : String) : List Told := (cells text).filterMap ofRow?

theorem cells_boxText (s : Summary) : cells s.boxText = s.box.header :: s.box.rows := by
  rw [cells, split_boxText, Box.read_lines (plain_box s)]

/-- What there is to tell above the total. -/
def toldAbove (s : Summary) : List Told :=
  s.statusCounts.map (fun e => .status e.1.toNat e.2.toNat) ++
    if 0 < s.transportErrors then [.unanswered s.transportErrors.toNat] else []

/-- What there is to tell of a summary. -/
def told (s : Summary) : List Told :=
  s.toldAbove ++ [.total s.completed.toNat s.successes.toNat s.errors.toNat]

/-- A table tells all there is to tell. -/
theorem tellings_boxText (s : Summary) : tellings s.boxText = s.told := by
  have hstatus : (s.statusCounts.map statusRow).filterMap ofRow? =
      s.statusCounts.map fun e => .status e.1.toNat e.2.toNat := by
    rw [List.filterMap_map, ← List.filterMap_eq_map]
    exact List.filterMap_congr fun e _ => ofRow?_statusRow e
  have htransport : s.transportRow.filterMap ofRow? =
      if 0 < s.transportErrors then [.unanswered s.transportErrors.toNat] else [] := by
    rw [transportRow]
    split
    · rw [List.filterMap_cons_some (ofRow?_transport _), List.filterMap_nil]
    · rfl
  rw [tellings, cells_boxText, rows_box, List.filterMap_cons_none rfl, List.filterMap_append,
    List.filterMap_append, hstatus, htransport, List.filterMap_cons_some s.ofRow?_totalRow,
    List.filterMap_nil, told, toldAbove]

/-! ### What is told -/

theorem filterMap_status?_told (s : Summary) :
    s.told.filterMap status? = s.statusCounts.map fun e => (e.1.toNat, e.2.toNat) := by
  rw [told, toldAbove, List.filterMap_append, List.filterMap_append, List.filterMap_map]
  have hstatus : s.statusCounts.filterMap (status? ∘ fun e => .status e.1.toNat e.2.toNat) =
      s.statusCounts.map fun e => (e.1.toNat, e.2.toNat) := by
    rw [← List.filterMap_eq_map]
    rfl
  rw [hstatus]
  split <;> simp [status?]

theorem toNat_eq_zero {n : UInt64} (h : ¬0 < n) : n.toNat = 0 := by
  rw [UInt64.le_zero_iff.1 (UInt64.not_lt.1 h)]
  rfl

/-- The outcomes without a status have a row or are none. -/
theorem sum_unanswered?_told (s : Summary) :
    (s.told.filterMap unanswered?).sum = s.transportErrors.toNat := by
  rw [told, toldAbove, List.filterMap_append, List.filterMap_append, List.filterMap_map]
  have hnone : s.statusCounts.filterMap (unanswered? ∘ fun e => .status e.1.toNat e.2.toNat) =
      [] := List.filterMap_eq_nil_iff.2 fun _ _ => rfl
  rw [hnone, List.filterMap_cons_none rfl]
  split
  · simp [unanswered?]
  · next hzero => simp [toNat_eq_zero hzero]

/-- The counts above the total come to all that is counted by status or without one. -/
theorem sum_toldAbove (s : Summary) : (s.toldAbove.map count).sum =
    s.statusCounts.sumWhere (fun _ => true) + s.transportErrors.toNat := by
  have hstatus : (s.statusCounts.map (count ∘ fun e => .status e.1.toNat e.2.toNat)).sum =
      s.statusCounts.sumWhere fun _ => true := by
    rw [StatusCounts.sumWhere, List.filter_eq_self.2 fun _ _ => rfl]
    rfl
  rw [toldAbove, List.map_append, List.sum_append, List.map_map, hstatus]
  split
  · simp [count]
  · next hzero => simp [toNat_eq_zero hzero]

/-- Boxes are equal if what they tell is. -/
theorem boxText_eq_iff {s t : Summary} : s.boxText = t.boxText ↔
    s.statusCounts = t.statusCounts ∧ s.transportErrors = t.transportErrors ∧
      s.successes = t.successes ∧ s.errors = t.errors := by
  constructor
  · intro htext
    have htold : s.told = t.told := by rw [← tellings_boxText, htext, tellings_boxText]
    -- Each kind of rows gives its own counts; where it has no row, nothing was counted.
    refine ⟨?_, ?_, ?_⟩
    · have hstatus := congrArg (List.filterMap status?) htold
      rw [filterMap_status?_told, filterMap_status?_told] at hstatus
      refine List.map_injective_iff.2 (fun a b h => ?_) hstatus
      obtain ⟨hcode, hcount⟩ := Prod.mk.inj h
      exact Prod.ext (UInt16.toNat_inj.1 hcode) (UInt64.toNat_inj.1 hcount)
    · have hunanswered := congrArg (fun rows => (rows.filterMap unanswered?).sum) htold
      simp only [sum_unanswered?_told] at hunanswered
      exact UInt64.toNat_inj.1 hunanswered
    · have hlast := congrArg List.getLast? htold
      rw [told, told, List.getLast?_concat, List.getLast?_concat] at hlast
      obtain ⟨-, hsuccesses, herrors⟩ := Told.total.inj (Option.some.inj hlast)
      exact ⟨UInt64.toNat_inj.1 hsuccesses, UInt64.toNat_inj.1 herrors⟩
  · rintro ⟨hstatus, htransport, hsuccesses, herrors⟩
    have hrows : s.box.rows = t.box.rows := by
      simp only [rows_box, transportRow, totalRow, completed, hstatus, htransport, hsuccesses,
        herrors]
    have hbox : s.box = t.box := congrArg (Box.mk ("Outcome".toList, "Count".toList)) hrows
    rw [boxText, hbox, boxText]

/-! ### The whole tally -/

/-- A text tells a summary. -/
structure Tells (text : String) (s : Summary) : Prop where
  /-- All lines are equally long. -/
  width : ∃ width, ∀ line ∈ split '\n' text.toList, line.length = width
  /-- Below the header there are a row for each status, a row for the outcomes without a status
      if there are any, and a row for the total. -/
  labels : (cells text).map Prod.fst = "Outcome".toList ::
    (s.statusCounts.map (fun e => "HTTP ".toList ++ digits e.1.toNat) ++
      (if 0 < s.transportErrors then ["Transport error".toList] else []) ++ ["TOTAL".toList])
  /-- The numbers in the rows are the counts of the summary. -/
  counts : tellings text = s.statusCounts.map (fun e => .status e.1.toNat e.2.toNat) ++
    (if 0 < s.transportErrors then [.unanswered s.transportErrors.toNat] else []) ++
    [.total (s.successes.toNat + s.errors.toNat) s.successes.toNat s.errors.toNat]
  /-- The statuses stand in the order of their numbers. -/
  increasing : (((tellings text).filterMap status?).map Prod.fst).Pairwise (· < ·)

theorem labels_box (s : Summary) : s.box.rows.map Prod.fst =
    s.statusCounts.map (fun e => "HTTP ".toList ++ digits e.1.toNat) ++
      (if 0 < s.transportErrors then ["Transport error".toList] else []) ++ ["TOTAL".toList] := by
  have htransport : s.transportRow.map Prod.fst =
      if 0 < s.transportErrors then ["Transport error".toList] else [] := by
    rw [transportRow]
    split <;> rfl
  rw [rows_box, List.map_append, List.map_append, List.map_map, htransport]
  rfl

theorem tells_boxText {s : Summary} (hordered : s.statusCounts.Ordered)
    (hsum : s.successes.toNat + s.errors.toNat < UInt64.size) : Tells s.boxText s where
  width := by
    rw [split_boxText]
    exact ⟨_, fun _ hline => Box.length_of_mem_lines hline⟩
  labels := by
    rw [cells_boxText, List.map_cons, labels_box]
    rfl
  counts := by
    have hcompleted : s.completed.toNat = s.successes.toNat + s.errors.toNat := by
      rw [completed, UInt64.toNat_add]
      exact Nat.mod_eq_of_lt hsum
    rw [tellings_boxText, told, toldAbove, hcompleted]
  increasing := by
    rw [tellings_boxText, filterMap_status?_told, List.map_map]
    exact hordered.codes

/-- **The table tells the whole tally.** The table of a summary is a box and a line below it.

    * The box tells the summary (`Tells`), if its statuses stand in increasing order and its
      successes and errors together make a word.
    * The boxes of two summaries are equal only if they count the same, outcome by outcome.
    * In the box of a summary that started at nothing and recorded outcomes, fewer than there
      are words, the total is their number, and the counts above it add up to it. -/
theorem table_tells_tally :
    (∀ s : Summary, s.table = s.boxText ++ "\n" ++ s.paceLine ++ "\n") ∧
    (∀ s : Summary, s.statusCounts.Ordered →
      s.successes.toNat + s.errors.toNat < UInt64.size → Tells s.boxText s) ∧
    (∀ s t : Summary, s.boxText = t.boxText ↔
      s.statusCounts = t.statusCounts ∧ s.transportErrors = t.transportErrors ∧
        s.successes = t.successes ∧ s.errors = t.errors) ∧
    ∀ (total : UInt64) (now : Instant) (os : List Outcome), os.length < UInt64.size →
      ∃ above, tellings ((start total now).tally os).boxText = above ++
          [.total os.length (os.countP Outcome.isSuccess) (os.countP fun o => !o.isSuccess)] ∧
        (above.map count).sum = os.length := by
  refine ⟨fun _ => rfl, fun s => tells_boxText, fun s t => boxText_eq_iff, ?_⟩
  intro total now os hlen
  have hbalances := balances_tally total now hlen
  refine ⟨((start total now).tally os).toldAbove, ?_, ?_⟩
  · rw [tellings_boxText, told, hbalances.completed_eq, hbalances.successes, hbalances.errors]
  · rw [sum_toldAbove, hbalances.sum_eq, hbalances.completed_eq]

/-- Statuses of unequal lengths and a count of seven digits; and a run whose outcomes are
    recorded. -/
theorem table_tells_tally_of_statuses :
    let now : Instant := ⟨1700000000, 0⟩
    let s : Summary := { start 0 now with
      successes := 1234567
      errors := 1002
      transportErrors := 1
      statusCounts := [(99, 1), (200, 1234567), (1000, 1000)] }
    let os : List Outcome := [.status 503, .error "refused", .status 200, .status 503]
    tellings s.boxText = [.status 99 1, .status 200 1234567, .status 1000 1000, .unanswered 1,
        .total 1235569 1234567 1002] ∧
      s.boxText ≠ (start 0 now).boxText ∧
      ∃ above, tellings ((start 4 now).tally os).boxText = above ++ [.total 4 1 3] ∧
        (above.map count).sum = 4 := by
  intro now s os
  obtain ⟨-, htells, hiff, htally⟩ := table_tells_tally
  refine ⟨(htells s (by decide) (by decide)).counts, fun heq => ?_, htally 4 now os (by decide)⟩
  exact absurd ((hiff s _).1 heq).1 (List.cons_ne_nil _ _)

end Summary

end SyntheticLoad

import SyntheticLoad.Proofs.Text.Cut
import SyntheticLoad.Proofs.Text.Trim
import SyntheticLoad.Summary.Table

/-!
# Boxes are read back

All lines of a box are as long as its two columns ask for, as no cell is longer than the widest
one of its column (`length_of_mem_lines`).

A row is known by the character it begins with, which no border has. Its cells stand on either
side of the inner line, among spaces (`row?`). So the cells of a box can be read off its lines,
if they have no spaces of their own at their ends and nothing in them that divides cells or lines
(`read_lines`).
-/

namespace SyntheticLoad.Box

open Text

/-! ### Widths -/

theorem le_foldl_max (cells : List (List Char)) (w : Nat) :
    w ≤ cells.foldl (fun w c => max w c.length) w := by
  induction cells generalizing w with
  | nil => exact Nat.le_refl w
  | cons c cells ih => exact Nat.le_trans (Nat.le_max_left w c.length) (ih _)

theorem le_widest {cells : List (List Char)} {c : List Char} (hc : c ∈ cells) :
    c.length ≤ widest cells := by
  obtain ⟨before, after, rfl⟩ := List.append_of_mem hc
  rw [widest, List.foldl_append, List.foldl_cons]
  exact Nat.le_trans (Nat.le_max_right _ _) (le_foldl_max after _)

variable {b : Box} {row : List Char × List Char}

/-- The cells of a row are no longer than their columns are wide. -/
theorem length_le_width (hrow : row ∈ b.header :: b.rows) :
    row.1.length ≤ b.firstWidth ∧ row.2.length ≤ b.secondWidth := by
  have hfirst : row.1 ∈ b.header.1 :: b.rows.map Prod.fst := List.mem_map_of_mem hrow
  have hsecond : row.2 ∈ b.header.2 :: b.rows.map Prod.snd := List.mem_map_of_mem hrow
  exact ⟨le_widest hfirst, le_widest hsecond⟩

/-! ### Lines -/

variable {first second : Nat}

theorem length_border (border : Border) (first second : Nat) :
    (border.line first second).length = first + second + 7 := by
  simp only [Border.line, List.length_cons, List.length_append, List.length_replicate,
    List.length_nil]
  omega

theorem length_cell {width : Nat} {text : List Char} (h : text.length ≤ width) :
    (cell width text).length = width + 2 := by
  simp only [cell, List.length_cons, List.length_append, List.length_replicate, List.length_nil]
  omega

theorem length_rowLine (hfirst : row.1.length ≤ first) (hsecond : row.2.length ≤ second) :
    (rowLine first second row).length = first + second + 7 := by
  simp only [rowLine, List.length_cons, List.length_append, length_cell hfirst,
    length_cell hsecond, List.length_nil]
  omega

/-- The lines of rows are a line for each of them, and borders. -/
theorem mem_rowLines {rows : List (List Char × List Char)} {line : List Char}
    (h : line ∈ rowLines first second rows) :
    line = betweenRows.line first second ∨ ∃ row ∈ rows, line = rowLine first second row := by
  fun_induction rowLines first second rows with
  | case1 => cases h
  | case2 row => exact .inr ⟨row, List.mem_cons_self, List.mem_singleton.1 h⟩
  | case3 row rows _ ih =>
    rcases List.mem_cons.1 h with rfl | h
    · exact .inr ⟨row, List.mem_cons_self, rfl⟩
    · rcases List.mem_cons.1 h with rfl | h
      · exact .inl rfl
      · obtain hborder | ⟨r, hr, heq⟩ := ih h
        · exact .inl hborder
        · exact .inr ⟨r, List.mem_cons_of_mem row hr, heq⟩

/-- The lines of a box are a line for each of its rows, the header among them, and borders. -/
theorem mem_lines {line : List Char} (h : line ∈ b.lines) :
    (∃ border ∈ [top, belowHeader, betweenRows, bottom],
      line = Border.line border b.firstWidth b.secondWidth) ∨
    ∃ row ∈ b.header :: b.rows, line = rowLine b.firstWidth b.secondWidth row := by
  simp only [lines, List.mem_cons, List.mem_append, List.not_mem_nil, or_false] at h
  rcases h with rfl | rfl | rfl | h | rfl
  · exact .inl ⟨top, by simp, rfl⟩
  · exact .inr ⟨b.header, List.mem_cons_self, rfl⟩
  · exact .inl ⟨belowHeader, by simp, rfl⟩
  · obtain hborder | ⟨row, hrow, heq⟩ := mem_rowLines h
    · exact .inl ⟨betweenRows, by simp, hborder⟩
    · exact .inr ⟨row, List.mem_cons_of_mem _ hrow, heq⟩
  · exact .inl ⟨bottom, by simp, rfl⟩

/-- All lines of a box are equally long. -/
theorem length_of_mem_lines {line : List Char} (h : line ∈ b.lines) :
    line.length = b.firstWidth + b.secondWidth + 7 := by
  obtain ⟨border, -, rfl⟩ | ⟨row, hrow, rfl⟩ := mem_lines h
  · exact length_border border _ _
  · obtain ⟨hfirst, hsecond⟩ := length_le_width hrow
    exact length_rowLine hfirst hsecond

/-! ### Reading -/

/-- A text that is told from what is drawn around it when it stands in a cell. -/
structure Plain (text : List Char) : Prop where
  trimmed : Trimmed (· = ' ') text
  no_bar : '┆' ∉ text
  no_break : '\n' ∉ text

instance (text : List Char) : Decidable (Plain text) :=
  decidable_of_iff (Trimmed (· = ' ') text ∧ '┆' ∉ text ∧ '\n' ∉ text)
    ⟨fun h => ⟨h.1, h.2.1, h.2.2⟩, fun h => ⟨h.trimmed, h.no_bar, h.no_break⟩⟩

namespace Plain

/-- The characters that are drawn around texts stand in none that is without them. -/
theorem of_forall {text : List Char} (h : ∀ c ∈ text, c ∉ [' ', '┆', '\n']) : Plain text where
  trimmed := .of_forall fun c hc => decide_eq_false fun heq => h c hc (by rw [heq]; decide)
  no_bar := fun hc => h _ hc (by decide)
  no_break := fun hc => h _ hc (by decide)

/-- Between two texts spaces do no harm. -/
theorem append_append {before after : List Char} (hbefore : Plain before) (hafter : Plain after)
    (hne : before ≠ []) (hne' : after ≠ []) {text : List Char} (hbar : '┆' ∉ text)
    (hbreak : '\n' ∉ text) : Plain (before ++ text ++ after) where
  trimmed := hbefore.trimmed.append_append hafter.trimmed hne hne' text
  no_bar := by simp [hbefore.no_bar, hbar, hafter.no_bar]
  no_break := by simp [hbefore.no_break, hbreak, hafter.no_break]

end Plain

/-- The cells of a line, if it is a row. -/
def row? : List Char → Option (List Char × List Char)
  | '│' :: cs => (cut '┆' cs).map fun (first, second) =>
    (trimBy (· = ' ') first, trimBy (· = ' ') second.dropLast)
  | _ => none

/-- The cells of the rows among some lines. -/
def read (lines : List (List Char)) : List (List Char × List Char) := lines.filterMap row?

theorem trimBy_cell {text : List Char} (h : Plain text) (width : Nat) :
    trimBy (· = ' ') (cell width text) = text := by
  have hcell : cell width text =
      [' '] ++ text ++ (List.replicate (width - text.length) ' ' ++ [' ']) := by
    simp [cell]
  rw [hcell]
  refine trimBy_append h.trimmed (by simp) fun c hc => ?_
  rcases List.mem_append.1 hc with hc | hc
  · simp [(List.mem_replicate.1 hc).2]
  · simp [List.mem_singleton.1 hc]

theorem not_mem_cell {text : List Char} {c : Char} (hc : c ≠ ' ') (h : c ∉ text) (width : Nat) :
    c ∉ cell width text := by
  simp [cell, hc, h]

/-- The cells of a row are read off its line. -/
theorem row?_rowLine (hfirst : Plain row.1) (hsecond : Plain row.2) :
    row? (rowLine first second row) = some row := by
  have hline : rowLine first second row =
      '│' :: (cell first row.1 ++ '┆' :: (cell second row.2 ++ ['│'])) := by
    simp [rowLine]
  have hbar : '┆' ∉ cell first row.1 := not_mem_cell (by decide) hfirst.no_bar first
  rw [hline, row?, cut_append_cons hbar, Option.map_some]
  simp only [List.dropLast_concat, trimBy_cell hfirst, trimBy_cell hsecond]

theorem row?_border {border : Border} (h : border.left ≠ '│') (first second : Nat) :
    row? (border.line first second) = none := by
  rw [Border.line, row?]
  exact fun cs heq => h (List.cons.inj heq).1

theorem read_rowLines {rows : List (List Char × List Char)}
    (h : ∀ row ∈ rows, Plain row.1 ∧ Plain row.2) : read (rowLines first second rows) = rows := by
  fun_induction rowLines first second rows with
  | case1 => rfl
  | case2 row =>
    obtain ⟨hfirst, hsecond⟩ := h row List.mem_cons_self
    rw [read, List.filterMap_cons_some (row?_rowLine hfirst hsecond), List.filterMap_nil]
  | case3 row rows _ ih =>
    obtain ⟨⟨hfirst, hsecond⟩, hrows⟩ := List.forall_mem_cons.1 h
    rw [read, List.filterMap_cons_some (row?_rowLine hfirst hsecond),
      List.filterMap_cons_none (row?_border (by decide) first second)]
    exact congrArg (row :: ·) (ih hrows)

/-- The cells of a box are read off its lines. -/
theorem read_lines (h : ∀ row ∈ b.header :: b.rows, Plain row.1 ∧ Plain row.2) :
    read b.lines = b.header :: b.rows := by
  obtain ⟨⟨hfirst, hsecond⟩, hrows⟩ := List.forall_mem_cons.1 h
  rw [read, lines, List.filterMap_cons_none (row?_border (by decide) _ _),
    List.filterMap_cons_some (row?_rowLine hfirst hsecond),
    List.filterMap_cons_none (row?_border (by decide) _ _), List.filterMap_append,
    List.filterMap_cons_none (row?_border (by decide) _ _), List.filterMap_nil, List.append_nil]
  exact congrArg (b.header :: ·) (read_rowLines hrows)

/-- No line of a box has a break in it. -/
theorem no_break_of_mem_lines (h : ∀ row ∈ b.header :: b.rows, Plain row.1 ∧ Plain row.2)
    {line : List Char} (hline : line ∈ b.lines) : '\n' ∉ line := by
  obtain ⟨border, hborder, rfl⟩ | ⟨row, hrow, rfl⟩ := mem_lines hline
  · have hnone : ∀ border ∈ [top, belowHeader, betweenRows, bottom],
        '\n' ∉ [border.left, border.fill, border.middle, border.right] := by decide
    have hfree := hnone border hborder
    simp only [List.mem_cons, List.not_mem_nil, or_false, not_or] at hfree
    simp [Border.line, hfree]
  · obtain ⟨hfirst, hsecond⟩ := h row hrow
    have hcells := not_mem_cell (by decide) hfirst.no_break b.firstWidth
    have hcells' := not_mem_cell (by decide) hsecond.no_break b.secondWidth
    simp [rowLine, hcells, hcells']

end SyntheticLoad.Box

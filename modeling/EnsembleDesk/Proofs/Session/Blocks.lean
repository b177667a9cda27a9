import EnsembleDesk.Proofs.Sheet.UsedRange
import EnsembleDesk.Session.Writing
/-!
# Blocks of cells

A block of cells is a range of so many rows and columns from its first cell on. Distances stop at
the last lines, so its cells can be counted by rows and columns only where it lies in front of them
(`Address.Fits`); a selection that has a bound does. `CellRange.IsBlock` says what range a block is,
and `Address.LiesAt` where its cells are, without distances.

## Main results

* `Address.Fits.offset_inj`: the cells of a block are different from each other;
* `CellRange.IsBlock.mem_iff`, `CellRange.mem_iff_exists_offset`: they are the cells of a range.
-/

namespace EnsembleDesk

/-! ### Distances -/

/-- A line that is not beyond the last one that has cells is reached exactly. -/
theorem Index.val_offset {i : Index} {n : Nat} (h : i.val + n < Index.unbounded.val) :
    (i.offset n).val = i.val + n := by
  rw [Index.val_unbounded] at h
  rw [Index.offset, Index.val_capped]
  omega

/-- In front of the last line it makes no difference where counting on stops. -/
theorem Index.plus_eq_offset {i : Index} {n : Nat} (h : i.val + n < Index.unbounded.val) :
    i.plus n = i.offset n := by
  -- both stop at a last line, which is not reached
  rw [Fin.ext_iff, val_plus, val_offset h]
  rw [val_unbounded] at h
  omega

/-! ### Lines of a span -/

namespace Span

theorem val_start_le (span : Span) : span.start.val ≤ span.stop.val := span.start_le_stop

/-- A span has a line. -/
theorem length_pos (span : Span) : 0 < span.length := Nat.succ_pos _

/-- A span has as many lines as its length says. -/
theorem length_lines (span : Span) : span.lines.length = span.length := by simp [lines]

/-- The length leads from the first line to behind the last one. -/
theorem val_stop_add_one (span : Span) : span.stop.val + 1 = span.start.val + span.length := by
  have := span.val_start_le
  rw [length]
  omega

/-- The last line is its distance from the first one away. -/
theorem start_plus_last (span : Span) : span.start.plus (span.length - 1) = span.stop := by
  have hle := span.val_start_le
  have hlt := span.stop.isLt
  rw [Fin.ext_iff, Index.val_plus, length]
  omega

/-- The lines of a span end with its last one. -/
theorem getLast?_lines (span : Span) : span.lines.getLast? = some span.stop := by
  have hpos := span.length_pos
  rw [lines, List.getLast?_map, List.getLast?_range, if_neg (by omega), Option.map_some,
    start_plus_last]

/-- The lines in front of the last one are counted on from the first one. -/
theorem dropLast_lines (span : Span) :
    span.lines.dropLast = (List.range (span.length - 1)).map span.start.plus := by
  rw [lines, length, Nat.add_sub_cancel, List.range_succ, List.map_append]
  exact List.dropLast_concat

/-- The lines of a span are counted on from the first one. -/
theorem getElem?_lines (span : Span) {n : Nat} (hn : n < span.length) :
    span.lines[n]? = some (span.start.plus n) := by
  rw [lines, List.getElem?_map, List.getElem?_range hn, Option.map_some]

/-- The lines that are listed are those of the span. -/
theorem mem_of_mem_lines {span : Span} {i : Index} (h : i ∈ span.lines) : i ∈ span := by
  obtain ⟨n, hn, rfl⟩ := List.mem_map.1 h
  have hle := span.val_start_le
  have hlt := span.stop.isLt
  rw [List.mem_range, length] at hn
  rw [mem_iff, Index.val_plus]
  omega

/-- The length of a span from one line to a later one. -/
theorem length_between {i j : Index} (h : i ≤ j) :
    (between i j).length = j.val - i.val + 1 := by
  rw [length, show (between i j).start = i from if_pos h, show (between i j).stop = j from if_pos h]

/-- Lines between two lines that have cells lie in front of the last line. -/
theorem start_add_length_le {i j : Index} (hi : i ≠ .unbounded) (hj : j ≠ .unbounded) :
    (between i j).start.val + (between i j).length ≤ Index.unbounded.val := by
  have hstart : (between i j).start.val = min i.val j.val := Index.val_earlier i j
  have hstop : (between i j).stop.val = max i.val j.val := Index.val_later i j
  have := i.isLt
  have := j.isLt
  rw [Ne, Fin.ext_iff, Index.val_unbounded] at hi hj
  rw [length, Index.val_unbounded]
  omega

end Span

/-! ### Blocks -/

namespace Address

/-- A block of so many rows and columns that begins at a cell lies in front of the last lines. -/
structure Fits (a : Address) (rows columns : Nat) : Prop where
  /-- The rows do. -/
  rows_le : a.row.val + rows ≤ Index.unbounded.val
  /-- The columns do. -/
  columns_le : a.column.val + columns ≤ Index.unbounded.val

variable {a : Address} {rows columns : Nat}

/-- A row of a block that fits is so many rows below the first one. -/
theorem Fits.val_row_offset (h : a.Fits rows columns) {r : Nat} (hr : r < rows) (c : Int) :
    (a.offset r c).row.val = a.row.val + r :=
  Index.val_offset (Nat.lt_of_lt_of_le (Nat.add_lt_add_left hr _) h.rows_le)

/-- A column of a block that fits is so many columns behind the first one. -/
theorem Fits.val_column_offset (h : a.Fits rows columns) (r : Int) {c : Nat} (hc : c < columns) :
    (a.offset r c).column.val = a.column.val + c :=
  Index.val_offset (Nat.lt_of_lt_of_le (Nat.add_lt_add_left hc _) h.columns_le)

/-- The cells of a block are different from each other. -/
theorem Fits.offset_inj (h : a.Fits rows columns) {r r' c c' : Nat} (hr : r < rows)
    (hr' : r' < rows) (hc : c < columns) (hc' : c' < columns)
    (heq : a.offset r c = a.offset r' c') : r = r' ∧ c = c' := by
  have hrow := h.val_row_offset hr c
  have hcolumn := h.val_column_offset r hc
  rw [heq, h.val_row_offset hr'] at hrow
  rw [heq, h.val_column_offset _ hc'] at hcolumn
  omega

/-- A cell that is so many rows below another one, and so many columns to the right of it. -/
structure LiesAt (a anchor : Address) (r c : Nat) : Prop where
  /-- The row. -/
  row : a.row.val = anchor.row.val + r
  /-- The column. -/
  column : a.column.val = anchor.column.val + c

/-- The cells of a block that fits lie where they are counted to. -/
theorem Fits.liesAt_offset (h : a.Fits rows columns) {r c : Nat} (hr : r < rows)
    (hc : c < columns) : (a.offset r c).LiesAt a r c :=
  ⟨h.val_row_offset hr c, h.val_column_offset r hc⟩

/-- Where no distance is cut short, there is one cell at each place. -/
theorem Fits.liesAt_iff (h : a.Fits rows columns) {r c : Nat} (hr : r < rows) (hc : c < columns)
    {b : Address} : b.LiesAt a r c ↔ a.offset r c = b := by
  obtain ⟨hrow, hcolumn⟩ := h.liesAt_offset hr hc
  constructor
  · rintro ⟨hbrow, hbcolumn⟩
    refine eq_of_number ?_
    rw [number, number, hrow, hcolumn, hbrow, hbcolumn]
  · rintro rfl
    exact ⟨hrow, hcolumn⟩

/-- A block of fewer rows fits, too. -/
theorem Fits.mono (h : a.Fits rows columns) {fewer : Nat} (hrows : fewer ≤ rows) :
    a.Fits fewer columns :=
  ⟨Nat.le_trans (Nat.add_le_add_left hrows _) h.rows_le, h.columns_le⟩

end Address

namespace CellRange

/-- A rectangle of so many rows and columns whose first cell is a given one. -/
structure IsBlock (block : CellRange) (anchor : Address) (rows columns : Nat) : Prop where
  /-- The first cell. -/
  start : block.start = anchor
  /-- The number of rows. -/
  rows_length : block.rows.length = rows
  /-- The number of columns. -/
  columns_length : block.columns.length = columns

variable {anchor : Address} {rows columns : Nat}

/-- A rectangle whose corners are given in order begins at the first and ends at the second. -/
theorem spanning_of_le {a b : Address} (hrow : a.row ≤ b.row) (hcolumn : a.column ≤ b.column) :
    (spanning a b).start = a ∧ (spanning a b).stop = b :=
  ⟨congrArg₂ Address.mk (if_pos hrow) (if_pos hcolumn),
    congrArg₂ Address.mk (if_pos hrow) (if_pos hcolumn)⟩

/-- The rectangle from a cell to the last cell of a block at it is the block. -/
theorem isBlock_spanning {stop : Address} (hstop : stop.LiesAt anchor (rows - 1) (columns - 1))
    (hrows : 0 < rows) (hcolumns : 0 < columns) :
    (spanning anchor stop).IsBlock anchor rows columns ∧ (spanning anchor stop).stop = stop := by
  have hrow : anchor.row ≤ stop.row := Fin.le_def.2 (hstop.row ▸ Nat.le_add_right _ _)
  have hcolumn : anchor.column ≤ stop.column := Fin.le_def.2 (hstop.column ▸ Nat.le_add_right _ _)
  obtain ⟨hfirst, hlast⟩ := spanning_of_le hrow hcolumn
  refine ⟨⟨hfirst, ?_, ?_⟩, hlast⟩
  · rw [spanning, Span.length_between hrow, hstop.row]
    omega
  · rw [spanning, Span.length_between hcolumn, hstop.column]
    omega

variable {block : CellRange}

/-- Where a block ends. -/
theorem IsBlock.val_stop (h : block.IsBlock anchor rows columns) :
    block.rows.stop.val + 1 = anchor.row.val + rows ∧
      block.columns.stop.val + 1 = anchor.column.val + columns := by
  obtain ⟨rfl, rfl, rfl⟩ := h
  exact ⟨block.rows.val_stop_add_one, block.columns.val_stop_add_one⟩

/-- The cells of a block are those at its places. -/
theorem IsBlock.mem_iff (h : block.IsBlock anchor rows columns) {a : Address} :
    a ∈ block ↔ ∃ r < rows, ∃ c < columns, a.LiesAt anchor r c := by
  obtain ⟨hrow, hcolumn⟩ := h.val_stop
  obtain rfl := h.start
  constructor
  · rintro ⟨⟨htop, hbottom⟩, hleft, hright⟩
    have hr : a.row.val - block.start.row.val < rows :=
      Nat.sub_lt_left_of_lt_add htop (hrow ▸ Nat.lt_succ_of_le hbottom)
    have hc : a.column.val - block.start.column.val < columns :=
      Nat.sub_lt_left_of_lt_add hleft (hcolumn ▸ Nat.lt_succ_of_le hright)
    exact ⟨_, hr, _, hc, (Nat.add_sub_cancel' htop).symm, (Nat.add_sub_cancel' hleft).symm⟩
  · rintro ⟨r, hr, c, hc, harow, hacolumn⟩
    refine ⟨⟨?_, ?_⟩, ?_, ?_⟩
    · exact Fin.le_def.2 (harow ▸ Nat.le_add_right _ _)
    · rw [Fin.le_def]
      omega
    · exact Fin.le_def.2 (hacolumn ▸ Nat.le_add_right _ _)
    · rw [Fin.le_def]
      omega

/-- The cells of a range in front of the last lines are those at so many rows and columns from its
first cell. -/
theorem mem_iff_exists_offset {range : CellRange}
    (h : range.start.Fits range.rows.length range.columns.length) {a : Address} :
    a ∈ range ↔
      ∃ r < range.rows.length, ∃ c < range.columns.length, range.start.offset r c = a := by
  have hblock : range.IsBlock range.start range.rows.length range.columns.length := ⟨rfl, rfl, rfl⟩
  rw [hblock.mem_iff]
  exact exists_congr fun r => and_congr_right fun hr => exists_congr fun c =>
    and_congr_right fun hc => h.liesAt_iff hr hc

/-- A block that lies in front of the last lines ends in front of them. -/
theorem IsBlock.stop_lt (h : block.IsBlock anchor rows columns) (hfits : anchor.Fits rows columns)
    (axis : Axis) : block.stop.along axis < Index.unbounded := by
  obtain ⟨hrow, hcolumn⟩ := h.val_stop
  obtain ⟨hrows, hcolumns⟩ := hfits
  cases axis with
  | row => exact Fin.lt_def.2 (Nat.lt_of_succ_le (Nat.le_trans (Nat.le_of_eq hrow) hrows))
  | column => exact Fin.lt_def.2 (Nat.lt_of_succ_le (Nat.le_trans (Nat.le_of_eq hcolumn) hcolumns))

end CellRange

/-! ### Selections -/

/-- The range of a single cell begins with that cell. -/
theorem Selection.start_range_cell (a : Address) : (Selection.cell a).range.start = a := by
  have hself : ∀ i : Index, i.earlier i = i := fun i => ite_self i
  show (⟨a.row.earlier a.row, a.column.earlier a.column⟩ : Address) = a
  rw [hself, hself]

/-- A selection that has a bound lies in front of the last lines. -/
theorem Selection.fits_of_bounded {selection : Selection} (h : selection.isUnbounded = false) :
    selection.range.start.Fits selection.range.rows.length selection.range.columns.length := by
  simp only [isUnbounded, List.contains_cons, List.contains_nil, Bool.or_eq_false_iff,
    beq_eq_false_iff_ne] at h
  obtain ⟨hrow, hcolumn, hrow', hcolumn', -⟩ := h
  exact ⟨Span.start_add_length_le hrow.symm hrow'.symm,
    Span.start_add_length_le hcolumn.symm hcolumn'.symm⟩

end EnsembleDesk

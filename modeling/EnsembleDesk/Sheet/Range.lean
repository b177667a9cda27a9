import EnsembleDesk.Sheet.Address
/-!
# Cell ranges

A range is the rectangle of a span of rows and a span of columns, ends included. Its text is the
address of its first and its last cell with a colon between them, or one address for a single cell.
-/

namespace EnsembleDesk

/-- Successive lines, from the first to the last. -/
structure Span where
  /-- The first line. -/
  start : Index
  /-- The last line. -/
  stop : Index
  /-- The last line does not come before the first. -/
  start_le_stop : start ≤ stop
deriving DecidableEq

namespace Span

/-- The lines from one line to another, in whichever order they are given. -/
def between (i j : Index) : Span :=
  ⟨i.earlier j, i.later j, by
    rw [Fin.le_def, Index.val_earlier, Index.val_later]
    omega⟩

/-- One line alone. -/
def single (i : Index) : Span := ⟨i, i, Nat.le_refl _⟩

instance : Inhabited Span := ⟨single .first⟩

instance : Membership Index Span := ⟨fun span i => span.start ≤ i ∧ i ≤ span.stop⟩

instance (span : Span) (i : Index) : Decidable (i ∈ span) :=
  inferInstanceAs (Decidable (_ ∧ _))

/-- The smallest span that holds a span and another line. -/
def including (span : Span) (i : Index) : Span :=
  ⟨span.start.earlier i, span.stop.later i, by
    have := span.start_le_stop
    rw [Fin.le_def] at this ⊢
    rw [Index.val_earlier, Index.val_later]
    omega⟩

/-- The number of lines. -/
def length (span : Span) : Nat := span.stop.val - span.start.val + 1

/-- The span after a line was inserted: it grows when the line stands in front of its last line or
of one before. -/
def afterInsertion (span : Span) (position : Index) : Span :=
  if position ≤ span.stop then
    ⟨span.start, span.stop.next, Nat.le_trans span.start_le_stop (Index.le_next _)⟩
  else span

/-- The span after a line was deleted: it moves when the line was in front of it, and shrinks, but
not to nothing, when the line was one of its own. -/
def afterDeletion (span : Span) (position : Index) : Span :=
  if position < span.start then
    ⟨span.start.previous, span.stop.previous, Index.previous_le_previous span.start_le_stop⟩
  else if h : position ≤ span.stop ∧ span.start < span.stop then
    ⟨span.start, span.stop.previous, by
      have := h.2
      rw [Fin.lt_def] at this
      rw [Fin.le_def, Index.val_previous]
      omega⟩
  else span

end Span

/-- A rectangle of cells. -/
structure CellRange where
  /-- The rows. -/
  rows : Span
  /-- The columns. -/
  columns : Span
deriving DecidableEq, Inhabited

namespace CellRange

/-- The first cell. -/
def start (range : CellRange) : Address := ⟨range.rows.start, range.columns.start⟩

/-- The last cell. -/
def stop (range : CellRange) : Address := ⟨range.rows.stop, range.columns.stop⟩

/-- The rectangle with two cells at opposite corners. -/
def spanning (a b : Address) : CellRange :=
  ⟨.between a.row b.row, .between a.column b.column⟩

/-- One cell alone. -/
def single (a : Address) : CellRange := ⟨.single a.row, .single a.column⟩

instance : Membership Address CellRange := ⟨fun range a => a.row ∈ range.rows ∧
  a.column ∈ range.columns⟩

instance (range : CellRange) (a : Address) : Decidable (a ∈ range) :=
  inferInstanceAs (Decidable (_ ∧ _))

/-- The smallest range that holds a range and another cell. -/
def including (range : CellRange) (a : Address) : CellRange :=
  ⟨range.rows.including a.row, range.columns.including a.column⟩

/-- The smallest range that holds two ranges. -/
def union (r s : CellRange) : CellRange := (r.including s.start).including s.stop

/-- The range with its span along an axis changed. -/
def mapAxis (range : CellRange) (axis : Axis) (f : Span → Span) : CellRange :=
  match axis with
  | .row => { range with rows := f range.rows }
  | .column => { range with columns := f range.columns }

/-- The number of cells. -/
def size (range : CellRange) : Nat := range.rows.length * range.columns.length

/-- The cell with a number, counted row by row from the first one. -/
def nth (range : CellRange) (n : Nat) : Address :=
  ⟨range.rows.start.plus (n / range.columns.length),
    range.columns.start.plus (n % range.columns.length)⟩

/-- The first `count` cells, row by row. -/
def firstCells (range : CellRange) (count : Nat) : List Address :=
  (List.range (min count range.size)).map range.nth

/-- All cells, row by row. -/
def cells (range : CellRange) : List Address := range.firstCells range.size

/-! ### Text -/

/-- The text of a range. -/
def chars (range : CellRange) : List Char :=
  if range.start = range.stop then range.start.chars
  else range.start.chars ++ ':' :: range.stop.chars

/-- The text of a range. -/
def text (range : CellRange) : String := String.ofList range.chars

/-- Reads a range: one address, or two with a colon between them in any order. -/
def read? (text : List Char) : Option CellRange :=
  match text.dropWhile (· != ':') with
  | [] => (Address.read? text).map single
  | _ :: rest => do
    let a ← Address.read? (text.takeWhile (· != ':'))
    let b ← Address.read? rest
    some (spanning a b)

end CellRange

end EnsembleDesk

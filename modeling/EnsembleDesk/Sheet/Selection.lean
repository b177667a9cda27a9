import EnsembleDesk.Sheet.Range
/-!
# Selections

A selection goes from its anchor, where it was begun, to its corner, which moves. A whole row or
column is selected up to `Index.unbounded`; before its cells are used it is cut back to the used
range (`Selection.clamped`).
-/

namespace EnsembleDesk

/-- The direction of an arrow key. -/
inductive Direction where
  | up
  | down
  | left
  | right
deriving DecidableEq

namespace Direction

/-- The rows by which a direction moves. -/
def rows : Direction → Int
  | up => -1
  | down => 1
  | _ => 0

/-- The columns by which a direction moves. -/
def columns : Direction → Int
  | left => -1
  | right => 1
  | _ => 0

end Direction

/-- The neighbour of a cell in a direction; the cell itself at the edge of the sheet. -/
def Address.neighbour (a : Address) (direction : Direction) : Address :=
  a.offset direction.rows direction.columns

namespace Span

/-- The span with a last line that is not bounded replaced by `last`; none if no line up to `last`
is left. -/
def cutBack (span : Span) (last : Index) : Option Span :=
  let stop := if span.stop = Index.unbounded then last else span.stop
  if h : span.start ≤ stop then
    if span.start ≤ last then some ⟨span.start, stop, h⟩ else none
  else none

end Span

/-- The selected cells: a rectangle with an anchor and a corner that moves. -/
structure Selection where
  /-- The cell where the selection was begun. -/
  anchor : Address
  /-- The cell at the opposite corner. -/
  corner : Address
deriving DecidableEq

namespace Selection

/-- The selection of one cell. -/
def cell (a : Address) : Selection := ⟨a, a⟩

/-- The selection of a whole row. -/
def entireRow (row : Index) : Selection := ⟨⟨row, .first⟩, ⟨row, .unbounded⟩⟩

/-- The selection of a whole column. -/
def entireColumn (column : Index) : Selection := ⟨⟨.first, column⟩, ⟨.unbounded, column⟩⟩

/-- Whether one cell is selected. -/
def isSingleCell (selection : Selection) : Bool := selection.anchor = selection.corner

/-- Whether a selection has no bound along an axis. -/
def isUnbounded (selection : Selection) : Bool :=
  [selection.anchor.row, selection.anchor.column, selection.corner.row,
    selection.corner.column].contains Index.unbounded

/-- The rectangle of a selection. -/
def range (selection : Selection) : CellRange := .spanning selection.anchor selection.corner

/-- The rectangle of a selection, cut back to the used range where it has no bound. There is none
when no used cell is left. -/
def clamped (selection : Selection) (used : Option CellRange) : Option CellRange :=
  if selection.isUnbounded then do
    let used ← used
    let rows ← selection.range.rows.cutBack used.rows.stop
    let columns ← selection.range.columns.cutBack used.columns.stop
    some ⟨rows, columns⟩
  else some selection.range

/-- The cell next to the corner; next to the anchor, if the selection has no bound. -/
def moved (selection : Selection) (direction : Direction) : Selection :=
  cell ((if selection.isUnbounded then selection.anchor else selection.corner).neighbour direction)

/-- The selection with its corner moved. -/
def extended (selection : Selection) (direction : Direction) : Selection :=
  ⟨selection.anchor, selection.corner.neighbour direction⟩

end Selection

end EnsembleDesk

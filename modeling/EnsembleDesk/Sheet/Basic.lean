import EnsembleDesk.Sheet.CellValue
import EnsembleDesk.Sheet.Range
import EnsembleDesk.Sheet.Sizes
/-!
# Worksheets

A worksheet has a name, cells, the sizes of its rows and columns, and a used range: the smallest
rectangle around every cell that was ever written. Clearing a cell leaves the used range as it is.

`Worksheet.insertLine` and `Worksheet.deleteLine` move cells, sizes and the used range along an axis
by the same map of indices.
-/

namespace EnsembleDesk

/-- A named sheet of cells. -/
structure Worksheet where
  /-- The name. -/
  name : String
  /-- The cells that are not empty. -/
  cells : Sparse Address CellValue
  /-- The rectangle around every cell that was written, if there is one. -/
  used : Option CellRange
  /-- The widths of the columns. -/
  columns : Sizes Binary64
  /-- The heights of the rows. -/
  rows : Sizes Binary64
deriving DecidableEq

namespace Worksheet

/-- An empty sheet. -/
def empty (name : String) : Worksheet :=
  { name, cells := .empty, used := none, columns := .uniform 100.0, rows := .uniform 24.0 }

/-- The value of a cell. -/
def value (sheet : Worksheet) (a : Address) : Option CellValue := sheet.cells.get? a

/-- What is shown in a cell. -/
def display (sheet : Worksheet) (a : Address) : Option String :=
  (sheet.value a).map CellValue.display

/-- Extends the used range without writing a cell. -/
def cover (sheet : Worksheet) (range : CellRange) : Worksheet :=
  { sheet with used := some ((sheet.used.map (·.union range)).getD range) }

/-- Writes a cell. -/
def set (sheet : Worksheet) (a : Address) (value : CellValue) : Worksheet :=
  { sheet.cover (.single a) with cells := sheet.cells.insert a value }

/-- Clears a cell. -/
def clear (sheet : Worksheet) (a : Address) : Worksheet :=
  { sheet with cells := sheet.cells.erase a }

/-- Writes or clears a cell. -/
def put (sheet : Worksheet) (a : Address) : Option CellValue → Worksheet
  | some value => sheet.set a value
  | none => sheet.clear a

/-- The sizes along an axis. -/
def sizes (sheet : Worksheet) : Axis → Sizes Binary64
  | .row => sheet.rows
  | .column => sheet.columns

/-- Changes the sizes along an axis. -/
def mapSizes (sheet : Worksheet) (axis : Axis) (f : Sizes Binary64 → Sizes Binary64) : Worksheet :=
  match axis with
  | .row => { sheet with rows := f sheet.rows }
  | .column => { sheet with columns := f sheet.columns }

/-- Inserts an empty row or column. -/
def insertLine (sheet : Worksheet) (axis : Axis) (position : Index) : Worksheet :=
  { sheet.mapSizes axis (·.afterInsertion position) with
    cells := sheet.cells.move fun a =>
      some (a.withIndex axis ((a.along axis).afterInsertion position))
    used := sheet.used.map (·.mapAxis axis (·.afterInsertion position)) }

/-- Deletes a row or column with its cells. -/
def deleteLine (sheet : Worksheet) (axis : Axis) (position : Index) : Worksheet :=
  { sheet.mapSizes axis (·.afterDeletion position) with
    cells := sheet.cells.move fun a =>
      ((a.along axis).afterDeletion position).map (a.withIndex axis)
    used := sheet.used.map (·.mapAxis axis (·.afterDeletion position)) }

end Worksheet

end EnsembleDesk

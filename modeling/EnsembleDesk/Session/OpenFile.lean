import EnsembleDesk.Book.Basic
import EnsembleDesk.Session.UndoLog
import EnsembleDesk.Session.ViewState
import EnsembleDesk.Settings.Grid
/-!
# An open file

What the editor holds while a file is open: the workbook, the sheet that is shown, how it is looked
at, the text that is being typed, and the undo log. The operations here are the parts that those of
the editor are made of.
-/

namespace EnsembleDesk

/-- A text that is being typed into a cell. -/
structure EditSession where
  /-- The cell. -/
  cell : Address
  /-- The text. -/
  text : String
deriving DecidableEq

/-- An open file. -/
structure OpenFile where
  /-- The path. -/
  path : String
  /-- The workbook. -/
  book : Workbook
  /-- The name of the sheet that is shown. -/
  active : String
  /-- How the sheets were looked at when they were last shown. -/
  view : FileView
  /-- The selection. -/
  selection : Option Selection
  /-- Whether the pointer is held down. -/
  dragging : Bool
  /-- The text that is being typed. -/
  edit : Option EditSession
  /-- The writes that can be taken back. -/
  undo : UndoLog
  /-- Whether something changed that the undo log does not record. -/
  restructured : Bool
  /-- The scroll position. -/
  scroll : Pair Binary64
  /-- The size of the window. -/
  client : Pair Binary64
  /-- How far the sheet can be scrolled. -/
  extent : Extent Binary64
  /-- Whether the next scroll event only echoes a position that was restored. -/
  awaitsEcho : Bool
deriving DecidableEq

namespace OpenFile

/-- The sheet that is shown. -/
def sheet (file : OpenFile) : Except GridError Worksheet := file.book.sheet file.active

/-- Changes the sheet that is shown. -/
def updateSheet (file : OpenFile) (f : Worksheet → Worksheet) : OpenFile :=
  { file with book := file.book.update file.active f }

/-- Writes or clears a cell and records it. -/
def write (file : OpenFile) (a : Address) (value : Option CellValue) :
    Except GridError OpenFile := do
  let sheet ← file.sheet
  .ok { file.updateSheet (·.put a value) with
    undo := file.undo.push ⟨file.active, a, sheet.value a, value⟩
    extent := file.extent.ensureCell a }

/-- Writes or clears several cells, in order. -/
def writeAll (file : OpenFile) (cells : List (Address × Option CellValue)) :
    Except GridError OpenFile :=
  cells.foldlM (fun file cell => file.write cell.1 cell.2) file

/-- Ends the typing of a text and writes it to its cell. -/
def commit (file : OpenFile) : Except GridError OpenFile :=
  match file.edit with
  | none => .ok file
  | some session =>
    { file with edit := none }.write session.cell (CellValue.ofInput session.text.toList)

/-- The selected cells, cut back to the used range. -/
def selected (file : OpenFile) : Except GridError (Option CellRange) := do
  let sheet ← file.sheet
  .ok (file.selection.bind fun selection => selection.clamped sheet.used)

/-- How the sheet is looked at now. -/
def currentView (file : OpenFile) (sheet : Worksheet) : SheetView :=
  { sheet := file.active, selection := file.selection, scroll := file.scroll,
    columnWidths := sheet.columns.own, rowHeights := sheet.rows.own }

/-- Keeps how the sheet is looked at. -/
def capture (file : OpenFile) : Except GridError OpenFile := do
  let sheet ← file.sheet
  let view := file.view.put (file.currentView sheet)
  .ok { file with view := { view with visible := file.active } }

/-- The sheet with the sizes that it was looked at with. -/
def resized (sheet : Worksheet) (view : SheetView) : Worksheet :=
  { sheet with
    columns := sheet.columns.setAll view.columnWidths.entries
    rows := sheet.rows.setAll view.rowHeights.entries }

/-- How far a sheet can be scrolled when it is shown: beyond its used range, and beyond the first
visible cell as far as a new sheet. -/
def initialExtent (options : GridOptions) (sheet : Worksheet) (scroll : Pair Binary64) :
    Extent Binary64 :=
  let extent := Extent.start options.initialRows options.initialColumns options.growthThreshold
  let extent := extent.ensure
    ((sheet.rows.indexAt scroll.top).1.plus options.initialRows.val)
    ((sheet.columns.indexAt scroll.left).1.plus options.initialColumns.val)
  match sheet.used with
  | some used => extent.ensureCell used.stop
  | none => extent

/-- Shows a sheet as it was looked at before. -/
def restore (file : OpenFile) (options : GridOptions) (name : String) :
    Except GridError OpenFile := do
  let saved := (file.view.sheet? name).getD { sheet := name }
  let sheet ← file.book.sheet name
  .ok { file with
    book := file.book.update name (resized · saved)
    active := name
    view := { file.view with visible := name }
    selection := saved.selection
    dragging := false
    edit := none
    scroll := saved.scroll
    extent := initialExtent options (resized sheet saved) saved.scroll
    awaitsEcho := !(saved.scroll.left.numericEq 0 && saved.scroll.top.numericEq 0) }

/-- The part of the sheet that is shown, within its extent. -/
def viewport (file : OpenFile) (overscan : Index) : Except GridError (Viewport Binary64) := do
  let sheet ← file.sheet
  let viewport := Viewport.compute file.scroll file.client sheet.columns sheet.rows overscan.val
  .ok ⟨viewport.rows.within file.extent.rows, viewport.columns.within file.extent.columns⟩

/-- The size of the sheet up to its extent. -/
def contentSize (file : OpenFile) : Except GridError (Pair Binary64) := do
  let sheet ← file.sheet
  .ok ⟨sheet.columns.offsetOf file.extent.columns, sheet.rows.offsetOf file.extent.rows⟩

/-- Whether there are changes that were not saved. -/
def isDirty (file : OpenFile) : Bool := file.restructured || !file.undo.isClean

/-- A file as it is opened: its lines have the chosen common sizes, and the sheet that was visible,
or else the first one, is shown. -/
def ofBook (path : String) (book : Workbook) (view : FileView) (options : GridOptions) :
    Except GridError OpenFile :=
  let book := if book.sheets.isEmpty then Workbook.blank else book
  let book : Workbook := ⟨book.sheets.map fun sheet =>
    { sheet with
      columns := { sheet.columns with common := Sizes.atLeastOne options.columnWidth }
      rows := { sheet.rows with common := Sizes.atLeastOne options.rowHeight } }⟩
  let visible :=
    if book.names.contains view.visible then view.visible
    else book.names.head?.getD Workbook.defaultSheetName
  let file : OpenFile :=
    { path, book, active := visible, view, selection := none, dragging := false, edit := none,
      undo := .empty, restructured := false, scroll := ⟨0, 0⟩, client := ⟨0, 0⟩,
      extent := .start options.initialRows options.initialColumns options.growthThreshold,
      awaitsEcho := false }
  file.restore options visible

end OpenFile

end EnsembleDesk

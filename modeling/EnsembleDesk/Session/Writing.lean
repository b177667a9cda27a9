import EnsembleDesk.Session.OpenFile
import EnsembleDesk.Text.Tabbed
/-!
# Changing cells

What typing, deleting, pasting, undoing and changing the structure of a sheet do to an open file.
-/

namespace EnsembleDesk

/-- The lines of a span, in order. -/
def Span.lines (span : Span) : List Index := (List.range span.length).map span.start.plus

namespace OpenFile

/-- A character is typed: into the text that is being typed, or into the single cell that is
selected, which is emptied to begin a new text. Tells whether the character was used. -/
def typeChar (file : OpenFile) (c : Char) : Except GridError (Bool × OpenFile) :=
  match file.edit, file.selection.filter Selection.isSingleCell with
  | some session, _ =>
    .ok (true, { file with edit := some { session with text := session.text.push c } })
  | none, none => .ok (false, file)
  | none, some selection => do
    let file ← file.write selection.anchor (some (.text ""))
    .ok (true, { file with edit := some ⟨selection.anchor, String.singleton c⟩ })

/-- Replaces the text that is being typed. Tells whether there is one. -/
def setEditText (file : OpenFile) (text : String) : Bool × OpenFile :=
  match file.edit with
  | some session => (true, { file with edit := some { session with text } })
  | none => (false, file)

/-- Ends the typing of a text. Tells whether there was one. -/
def commitEdit (file : OpenFile) : Except GridError (Bool × OpenFile) := do
  let committed ← file.commit
  .ok (file.edit.isSome, committed)

/-- The grid is left: typing and dragging end. -/
def blur (file : OpenFile) : Except GridError (Bool × OpenFile) :=
  { file with dragging := false }.commitEdit

/-- Clears the selected cells. Counts those that were not empty. -/
def delete (file : OpenFile) : Except GridError (Nat × OpenFile) :=
  if file.edit.isSome then .ok (0, file)
  else do
    match ← file.selected with
    | none => .ok (0, file)
    | some range =>
      let sheet ← file.sheet
      let targets := sheet.cells.positions.filter fun a => a ∈ range
      let cleared ← file.writeAll (targets.map fun a => (a, none))
      .ok (targets.length, cleared)

/-- What is shown in a range of cells, row by row. -/
def shownIn (sheet : Worksheet) (range : CellRange) : List (List (List Char)) :=
  range.rows.lines.map fun row => range.columns.lines.map fun column =>
    (CellValue.displayCell (sheet.value ⟨row, column⟩)).toList

/-- The text of the selected cells for the clipboard. -/
def copyText (file : OpenFile) : Except GridError (Option String) := do
  let sheet ← file.sheet
  let range ← file.selected
  .ok (range.map fun range => String.ofList (Tabbed.write (shownIn sheet range)))

/-- The writes that put rows of fields into the cells from `anchor` on. -/
def fieldWrites (anchor : Address) (rows : List (List (List Char))) :
    List (Address × Option CellValue) :=
  rows.zipIdx.flatMap fun (fields, r) => fields.zipIdx.map fun (field, c) =>
    (anchor.offset r c, CellValue.ofInput field)

/-- Puts rows of fields into the cells from the first selected one on, and selects them. -/
def pasteRows (file : OpenFile) (selection : Selection) (rows : List (List (List Char))) :
    Except GridError (CellRange × OpenFile) := do
  let file ← file.commit
  let anchor := selection.range.start
  let stop := anchor.offset (rows.length - 1) ((max (Tabbed.width rows) 1 : Nat) - 1)
  let range := CellRange.spanning anchor stop
  let file ← file.writeAll (fieldWrites anchor rows)
  .ok (range, { file.updateSheet (·.cover range) with
    extent := file.extent.ensureCell stop
    selection := some ⟨anchor, stop⟩ })

/-- Inserts or deletes lines of the sheet. What was recorded can no longer be taken back. -/
def restructure (file : OpenFile) (change : Worksheet → Worksheet) :
    Except GridError OpenFile := do
  let file ← file.commit
  let _ ← file.sheet
  .ok { file.updateSheet change with undo := file.undo.clear, restructured := true }

/-- Takes the last recorded write back. Tells whether there was one. -/
def takeBack (file : OpenFile) : Except GridError (Bool × OpenFile) :=
  let file := { file with edit := none }
  match file.undo.pop with
  | none => .ok (false, file)
  | some (edit, undo) => do
    let _ ← file.book.sheet edit.sheet
    .ok (true, { file with undo, book := file.book.update edit.sheet (·.put edit.cell edit.old) })

/-- The user has scrolled. The first event after a position was restored only echoes it. -/
def scrolled (file : OpenFile) (event : ScrollEvent Binary64) (overscan : Index) :
    Except GridError (Option (Viewport Binary64) × OpenFile) :=
  let file := { file with client := event.client }
  if file.awaitsEcho then .ok (none, { file with awaitsEcho := false })
  else do
    let file := { file with scroll := event.scroll, extent := file.extent.afterScroll event }
    let viewport ← file.viewport overscan
    .ok (some viewport, file)

/-- Sets the size of a line, of at least one pixel. -/
def resize (file : OpenFile) (axis : Axis) (i : Index) (size : Binary64) :
    Except GridError OpenFile := do
  let _ ← file.sheet
  .ok { file.updateSheet (·.mapSizes axis (·.set i (Sizes.atLeastOne size))) with
    restructured := true }

/-- Shows another sheet. -/
def showSheet (file : OpenFile) (options : GridOptions) (name : String) :
    Except GridError OpenFile := do
  let _ ← file.book.sheet name
  let file ← file.commit
  let file ← file.capture
  { file with selection := none }.restore options name

end OpenFile

end EnsembleDesk

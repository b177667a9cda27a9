import EnsembleDesk.Session.OpenFile
/-!
# Selecting cells

What pointer and arrow keys do to an open file. A text that is being typed is written to its cell
before the selection leaves that cell.
-/

namespace EnsembleDesk

namespace OpenFile

/-- Whether a text is being typed into another cell. -/
def editsOtherThan (file : OpenFile) (a : Address) : Bool :=
  match file.edit with
  | some session => session.cell != a
  | none => false

/-- The selection after a cell was pressed; `extend` keeps the anchor. -/
def pressed (selection : Option Selection) (a : Address) (extend : Bool) : Selection :=
  match selection with
  | some selection => if extend then ⟨selection.anchor, a⟩ else .cell a
  | none => .cell a

/-- The pointer is pressed on a cell. -/
def pointerDown (file : OpenFile) (a : Address) (extend : Bool) : Except GridError OpenFile := do
  let file ← if file.editsOtherThan a then file.commit else .ok file
  .ok { file with selection := some (pressed file.selection a extend), dragging := true }

/-- The pointer moves to a cell. Tells whether the selection changed. -/
def pointerMove (file : OpenFile) (a : Address) : Bool × OpenFile :=
  match file.selection with
  | some selection =>
    if file.dragging && selection.corner != a then
      (true, { file with selection := some { selection with corner := a } })
    else (false, file)
  | none => (false, file)

/-- The pointer is released. -/
def pointerUp (file : OpenFile) : Except GridError OpenFile :=
  { file with dragging := false }.capture

/-- A cell is pressed twice: its value can be edited. -/
def doubleClick (file : OpenFile) (a : Address) : Except GridError OpenFile := do
  let file ← file.commit
  let sheet ← file.sheet
  .ok { file with
    selection := some (.cell a)
    edit := some ⟨a, CellValue.displayCell (sheet.value a)⟩ }

/-- The selection after an arrow key; `extend` moves only the corner. -/
def arrowed (selection : Option Selection) (direction : Direction) (extend : Bool) : Selection :=
  match selection with
  | none => .cell ⟨.first, .first⟩
  | some selection => if extend then selection.extended direction else selection.moved direction

/-- An arrow key is pressed. -/
def arrow (file : OpenFile) (direction : Direction) (extend : Bool) :
    Except GridError OpenFile := do
  let file ← file.commit
  let selection := arrowed file.selection direction extend
  .ok { file with
    selection := some selection
    extent := if selection.isUnbounded then file.extent
      else file.extent.ensureCell selection.corner }

/-- A whole row or column is selected. -/
def selectLine (file : OpenFile) (axis : Axis) (i : Index) : Except GridError OpenFile := do
  let file ← file.commit
  .ok { file with
    selection := some (match axis with
      | .row => .entireRow i
      | .column => .entireColumn i) }

end OpenFile

end EnsembleDesk

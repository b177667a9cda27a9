import EnsembleDesk.Book.Format
import EnsembleDesk.Session.Gesture
import EnsembleDesk.Session.Host
import EnsembleDesk.Session.Writing
/-!
# The spreadsheet editor

The editor has at most one open file, and what the host provides: files, a clipboard and notices to
the user. `Editor.perform` carries out an operation: it answers a result or the reason why the
operation was refused, together with the editor afterwards.

A refused operation leaves the editor as it was, with one exception: saving a file that cannot be
written has ended the typing of a text and kept the view of the sheet.
-/

namespace EnsembleDesk

/-- The spreadsheet editor. -/
structure Editor where
  /-- The files. -/
  store : FileStore := {}
  /-- The clipboard. -/
  clipboard : Clipboard := {}
  /-- The messages to the user, the last one first. -/
  notices : List Notice := []
  /-- What the user chose. -/
  options : GridOptions := {}
  /-- The open file. -/
  file : Option OpenFile := none
deriving DecidableEq

/-- What the user does to an open file. -/
inductive Command where
  /-- The pointer is pressed on a cell; `extend` keeps the anchor of the selection. -/
  | pointerDown (a : Address) (extend : Bool)
  /-- The pointer moves to a cell. -/
  | pointerMove (a : Address)
  /-- The pointer is released. -/
  | pointerUp
  /-- A cell is pressed twice. -/
  | doubleClick (a : Address)
  /-- An arrow key is pressed; `extend` keeps the anchor of the selection. -/
  | arrow (direction : Direction) (extend : Bool)
  /-- A whole row or column is selected. -/
  | selectLine (axis : Axis) (i : Index)
  /-- A character is typed. -/
  | typeChar (c : Char)
  /-- The text that is being typed is replaced. -/
  | setEditText (text : String)
  /-- The typing of a text ends. -/
  | commitEdit
  /-- The grid is left. -/
  | blur
  /-- The selected cells are cleared. -/
  | delete
  /-- The selected cells are copied. -/
  | copy
  /-- The text on the clipboard is pasted. -/
  | paste
  /-- A row or column is inserted. -/
  | insertLine (axis : Axis) (i : Index)
  /-- A row or column is deleted. -/
  | deleteLine (axis : Axis) (i : Index)
  /-- The last write is taken back. -/
  | undo
  /-- The sheet is scrolled. -/
  | scroll (event : ScrollEvent Binary64)
  /-- A row or column gets a size. -/
  | resize (axis : Axis) (i : Index) (size : Binary64)
  /-- Another sheet is shown. -/
  | setActiveSheet (name : String)

/-- An operation of the editor. -/
inductive Operation where
  /-- The user does something to the open file. -/
  | command (command : Command)
  /-- A file is opened, as it was looked at before. -/
  | openFile (path : String) (view : Option FileView)
  /-- The open file is closed without saving it. -/
  | close
  /-- The open file is saved. -/
  | save
  /-- The host asks how the file is looked at. -/
  | captureView
  /-- The window gets a size. -/
  | setClient (size : Pair Binary64)
  /-- The host writes or clears a cell. -/
  | write (a : Address) (value : Option CellValue)
  /-- The host writes a JSON value into a cell. -/
  | writeJson (a : Address) (value : Json)

/-- What an operation answers. -/
inductive Answer where
  /-- Nothing. -/
  | done
  /-- Whether the operation did something. -/
  | flag (value : Bool)
  /-- How many cells were changed. -/
  | count (n : Nat)
  /-- The cells that were pasted. -/
  | pasted (range : Option CellRange)
  /-- The part of the sheet that is shown, if it changed. -/
  | viewport (viewport : Option (Viewport Binary64))
  /-- How the file is looked at. -/
  | view (view : FileView)

namespace Editor

/-- The result of an operation, with the editor afterwards. -/
abbrev Step := Except GridError Answer × Editor

/-- Does something to the open file. -/
def withFile (editor : Editor) (action : OpenFile → Except GridError (Answer × OpenFile)) : Step :=
  match editor.file with
  | none => (.error .noFileOpen, editor)
  | some file =>
    match action file with
    | .ok (answer, file) => (.ok answer, { editor with file := some file })
    | .error error => (.error error, editor)

/-- Does something to the open file that has no answer. -/
def changeFile (editor : Editor) (action : OpenFile → Except GridError OpenFile) : Step :=
  editor.withFile fun file => (action file).map fun file => (.done, file)

/-- Tells the user that something failed. -/
def notifyError (editor : Editor) (message : String) : Editor :=
  { editor with notices := ⟨.error, message⟩ :: editor.notices }

/-- Copies the selected cells; without a selection nothing is copied. -/
def copy (editor : Editor) : Step :=
  match editor.file with
  | none => (.error .noFileOpen, editor)
  | some file =>
    match file.copyText with
    | .error error => (.error error, editor)
    | .ok none => (.ok (.flag false), editor)
    | .ok (some text) =>
      match editor.clipboard.write? text with
      | some clipboard => (.ok (.flag true), { editor with clipboard })
      | none =>
        (.ok (.flag false),
          editor.notifyError "Could not copy the selection to the clipboard.")

/-- Pastes the text on the clipboard; without a selection nothing is pasted. -/
def paste (editor : Editor) : Step :=
  match editor.file with
  | none => (.error .noFileOpen, editor)
  | some file =>
    match file.selection, editor.clipboard.read? with
    | none, _ => (.ok (.pasted none), editor)
    | some _, none =>
      (.ok (.pasted none), editor.notifyError "Could not read the clipboard.")
    | some selection, some text =>
      match Tabbed.read text.toList with
      | [] => (.ok (.pasted none), editor)
      | rows => editor.withFile fun file =>
        (file.pasteRows selection rows).map fun (range, file) => (.pasted (some range), file)

/-- Carries out what the user does. -/
def performCommand (editor : Editor) : Command → Step
  | .pointerDown a extend => editor.changeFile (·.pointerDown a extend)
  | .pointerMove a => editor.withFile fun file =>
    let (moved, file) := file.pointerMove a
    .ok (.flag moved, file)
  | .pointerUp => editor.changeFile OpenFile.pointerUp
  | .doubleClick a => editor.changeFile (·.doubleClick a)
  | .arrow direction extend => editor.changeFile (·.arrow direction extend)
  | .selectLine axis i => editor.changeFile (·.selectLine axis i)
  | .typeChar c =>
    if isControl c then (.ok (.flag false), editor)
    else editor.withFile fun file => (file.typeChar c).map fun (used, file) => (.flag used, file)
  | .setEditText text => editor.withFile fun file =>
    let (set, file) := file.setEditText text
    .ok (.flag set, file)
  | .commitEdit => editor.withFile fun file =>
    file.commitEdit.map fun (ended, file) => (.flag ended, file)
  | .blur => editor.withFile fun file => file.blur.map fun (ended, file) => (.flag ended, file)
  | .delete => editor.withFile fun file => file.delete.map fun (n, file) => (.count n, file)
  | .copy => editor.copy
  | .paste => editor.paste
  | .insertLine axis i => editor.changeFile (·.restructure (·.insertLine axis i))
  | .deleteLine axis i => editor.changeFile (·.restructure (·.deleteLine axis i))
  | .undo => editor.withFile fun file =>
    file.takeBack.map fun (undone, file) => (.flag undone, file)
  | .scroll event => editor.withFile fun file =>
    (file.scrolled event editor.options.overscan).map fun (viewport, file) =>
      (.viewport viewport, file)
  | .resize axis i size => editor.changeFile (·.resize axis i size)
  | .setActiveSheet name => editor.changeFile (·.showSheet editor.options name)

/-- Reads the workbook of a file; a file that is not there is a blank one. -/
def readBook (editor : Editor) (path : String) : Except GridError Workbook :=
  match editor.store.read? path with
  | some bytes => (BookFormat.ofPath path).read bytes
  | none => .ok .blank

/-- Opens a file. -/
def openFile (editor : Editor) (path : String) (view : Option FileView) : Step :=
  let opened : Except GridError OpenFile := do
    let book ← editor.readBook path
    OpenFile.ofBook path book (view.getD {}) editor.options
  match opened with
  | .ok file => (.ok .done, { editor with file := some file })
  | .error error => (.error error, editor)

/-- Saves the open file. -/
def save (editor : Editor) : Step :=
  match editor.file with
  | none => (.error .noFileOpen, editor)
  | some file =>
    match file.commit >>= OpenFile.capture with
    | .error error => (.error error, editor)
    | .ok file =>
      match editor.store.write? file.path ((BookFormat.ofPath file.path).write file.book) with
      | none => (.error (.writeFailed file.path), { editor with file := some file })
      | some store =>
        (.ok (.view file.view), { editor with
          store
          file := some { file with undo := file.undo.markClean, restructured := false } })

/-- Carries out an operation. -/
def perform (editor : Editor) : Operation → Step
  | .command command => editor.performCommand command
  | .openFile path view => editor.openFile path view
  | .close => (.ok .done, { editor with file := none })
  | .save => editor.save
  | .captureView => editor.withFile fun file =>
    file.capture.map fun file => (.view file.view, file)
  | .setClient size => editor.withFile fun file => do
    let file := { file with client := size }
    let viewport ← file.viewport editor.options.overscan
    .ok (.viewport (some viewport), file)
  | .write a value => editor.changeFile (·.write a value)
  | .writeJson a value =>
    match CellValue.ofJson value with
    | .error error => (.error error, editor)
    | .ok value => editor.changeFile (·.write a (some value))

/-! ### Questions -/

/-- What an editor is doing. -/
inductive Status where
  /-- No file is open. -/
  | closed
  /-- A file is open. -/
  | loaded
  /-- A text is being typed into a cell. -/
  | editing (cell : Address)
deriving DecidableEq

/-- What the editor is doing. -/
def status (editor : Editor) : Status :=
  match editor.file with
  | none => .closed
  | some file =>
    match file.edit with
    | none => .loaded
    | some session => .editing session.cell

/-- The sheet that is shown. -/
def activeSheet (editor : Editor) : Option Worksheet :=
  editor.file.bind fun file => file.sheet.toOption

/-- Whether there are changes that were not saved. -/
def isDirty (editor : Editor) : Bool :=
  match editor.file with
  | some file => file.isDirty
  | none => false

/-- What is shown in a cell. -/
def display (editor : Editor) (a : Address) : Option String :=
  editor.activeSheet.bind (·.display a)

/-- The part of the sheet that is shown. -/
def viewport (editor : Editor) : Except GridError (Viewport Binary64) :=
  match editor.file with
  | none => .error .noFileOpen
  | some file => file.viewport editor.options.overscan

/-- The size of the sheet up to its extent. -/
def contentSize (editor : Editor) : Except GridError (Pair Binary64) :=
  match editor.file with
  | none => .error .noFileOpen
  | some file => file.contentSize

end Editor

end EnsembleDesk

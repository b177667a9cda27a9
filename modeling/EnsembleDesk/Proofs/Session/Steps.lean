import EnsembleDesk.Proofs.Session.Refusals
/-!
# Steps that change a file in place

The operations on an open file are made of parts, and each part that cannot be carried out refuses
the whole. An operation as it is defined for `OpenFile` gives no file then, so the one before it is
still there. A file that is changed in place does not come back by itself: what was changed before a
part was refused stays changed.

`Steps` are such parts, taken in order on one file. Every lookup stands where it is made, between
the changes that come before it and those that come after it; changes with no lookup between them
are one step. If an operation gives a file, then its steps are all taken and lead to that file
(`Steps.Gives`).
-/

namespace EnsembleDesk

/-- Steps on an open file, in order. The steps before one that is refused are not taken back. -/
abbrev Steps (α : Type) : Type := ExceptT GridError (StateM OpenFile) α

namespace Steps

open OpenFile

variable {α β : Type}

/-- What is looked up in the file; nothing is changed. -/
def lookup (find : OpenFile → Except GridError α) : Steps α :=
  ExceptT.mk fun file => (find file, file)

/-- A step that cannot be refused. -/
def change (f : OpenFile → OpenFile) : Steps Unit := modify f

/-- A step that cannot be refused and tells something. -/
def turn (f : OpenFile → α × OpenFile) : Steps α := modifyGet f

/-! ### Parts -/

/-- Writes or clears a cell and records it. -/
def write (a : Address) (value : Option CellValue) : Steps Unit := do
  let sheet ← lookup OpenFile.sheet
  change (·.updateSheet (·.put a value))
  change fun file => { file with undo := file.undo.push ⟨file.active, a, sheet.value a, value⟩ }
  change fun file => { file with extent := file.extent.ensureCell a }

/-- Writes or clears several cells, in order. -/
def writeAll : List (Address × Option CellValue) → Steps Unit
  | [] => pure ()
  | cell :: cells => do
    write cell.1 cell.2
    writeAll cells

/-- Ends the typing of a text and writes it to its cell. Tells whether there was one. -/
def commit : Steps Bool := do
  match (← get).edit with
  | none => pure false
  | some session =>
    change ({ · with edit := none })
    write session.cell (CellValue.ofInput session.text.toList)
    pure true

/-- Keeps how the sheet is looked at. -/
def capture : Steps Unit := do
  let sheet ← lookup OpenFile.sheet
  change fun file => { file with view := { file.view with visible := file.active } }
  change fun file => { file with view := file.view.put (file.currentView sheet) }

/-- Keeps how the sheet is looked at, and tells how the file is. -/
def captureView : Steps FileView := do
  capture
  turn fun file => (file.view, file)

/-- Shows a sheet as it was looked at before. -/
def restore (options : GridOptions) (name : String) : Steps Unit := do
  let saved := ((← get).view.sheet? name).getD { sheet := name }
  let sheet ← lookup (·.book.sheet name)
  change fun file => { file with book := file.book.update name (resized · saved) }
  change fun file => { file with
    active := name
    view := { file.view with visible := name }
    selection := saved.selection
    dragging := false
    edit := none
    scroll := saved.scroll
    extent := initialExtent options (resized sheet saved) saved.scroll
    awaitsEcho := !(saved.scroll.left.numericEq 0 && saved.scroll.top.numericEq 0) }

/-! ### Operations -/

/-- The pointer is pressed on a cell. -/
def pointerDown (a : Address) (extend : Bool) : Steps Unit := do
  let file ← get
  let _ ← if file.editsOtherThan a then commit else pure false
  change fun file => { file with
    selection := some (pressed file.selection a extend), dragging := true }

/-- The pointer is released. -/
def pointerUp : Steps Unit := do
  change ({ · with dragging := false })
  capture

/-- A cell is pressed twice: its value can be edited. -/
def doubleClick (a : Address) : Steps Unit := do
  let _ ← commit
  let sheet ← lookup OpenFile.sheet
  change fun file => { file with
    selection := some (.cell a)
    edit := some ⟨a, CellValue.displayCell (sheet.value a)⟩ }

/-- What ends the typing of a text and then cannot be refused any more. -/
def commitThen (f : OpenFile → OpenFile) : Steps Unit := do
  let _ ← commit
  change f

/-- An arrow key is pressed. -/
def arrow (direction : Direction) (extend : Bool) : Steps Unit :=
  commitThen fun file =>
    let selection := arrowed file.selection direction extend
    { file with
      selection := some selection
      extent := if selection.isUnbounded then file.extent
        else file.extent.ensureCell selection.corner }

/-- A whole row or column is selected. -/
def selectLine (axis : Axis) (i : Index) : Steps Unit :=
  commitThen fun file => { file with
    selection := some (match axis with
      | .row => .entireRow i
      | .column => .entireColumn i) }

/-- A character is typed. Tells whether it was used. -/
def typeChar (c : Char) : Steps Bool := do
  let file ← get
  match file.edit, file.selection.filter Selection.isSingleCell with
  | some session, _ =>
    change ({ · with edit := some { session with text := session.text.push c } })
    pure true
  | none, none => pure false
  | none, some selection =>
    write selection.anchor (some (.text ""))
    change ({ · with edit := some ⟨selection.anchor, String.singleton c⟩ })
    pure true

/-- The grid is left: typing and dragging end. -/
def blur : Steps Bool := do
  change ({ · with dragging := false })
  commit

/-- Clears the selected cells, one by one. Counts those that were not empty. -/
def delete : Steps Nat := do
  if (← get).edit.isSome then pure 0
  else
    match ← lookup OpenFile.selected with
    | none => pure 0
    | some range =>
      let sheet ← lookup OpenFile.sheet
      let targets := sheet.cells.positions.filter fun a => a ∈ range
      writeAll (targets.map fun a => (a, none))
      pure targets.length

/-- Puts rows of fields into the cells from the first selected one on, one by one, and selects
them. -/
def pasteRows (selection : Selection) (rows : List (List (List Char))) : Steps CellRange := do
  let _ ← commit
  let anchor := selection.range.start
  writeAll (fieldWrites anchor rows)
  let stop := anchor.offset (rows.length - 1) ((max (Tabbed.width rows) 1 : Nat) - 1)
  let range := CellRange.spanning anchor stop
  let _ ← lookup OpenFile.sheet
  change (·.updateSheet (·.cover range))
  change fun file => { file with
    extent := file.extent.ensureCell stop
    selection := some ⟨anchor, stop⟩ }
  pure range

/-- Inserts or deletes lines of the sheet. -/
def restructure (f : Worksheet → Worksheet) : Steps Unit := do
  let _ ← commit
  let _ ← lookup OpenFile.sheet
  change (·.updateSheet f)
  change fun file => { file with undo := file.undo.clear, restructured := true }

/-- Takes the last recorded write back. Tells whether there was one. -/
def takeBack : Steps Bool := do
  change ({ · with edit := none })
  match (← get).undo.pop with
  | none => pure false
  | some (edit, undo) =>
    change ({ · with undo })
    let _ ← lookup (·.book.sheet edit.sheet)
    change fun file => { file with book := file.book.update edit.sheet (·.put edit.cell edit.old) }
    pure true

/-- The user has scrolled. -/
def scrolled (event : ScrollEvent Binary64) (overscan : Index) :
    Steps (Option (Viewport Binary64)) := do
  change ({ · with client := event.client })
  if (← get).awaitsEcho then
    change ({ · with awaitsEcho := false })
    pure none
  else
    change fun file => { file with
      scroll := event.scroll, extent := file.extent.afterScroll event }
    let viewport ← lookup (·.viewport overscan)
    pure (some viewport)

/-- Sets the size of a line. -/
def resize (axis : Axis) (i : Index) (size : Binary64) : Steps Unit := do
  let _ ← lookup OpenFile.sheet
  change (·.updateSheet (·.mapSizes axis (·.set i (Sizes.atLeastOne size))))
  change ({ · with restructured := true })

/-- Shows another sheet. -/
def showSheet (options : GridOptions) (name : String) : Steps Unit := do
  let _ ← lookup (·.book.sheet name)
  let _ ← commit
  capture
  change ({ · with selection := none })
  restore options name

/-- The window gets a size. -/
def setClient (size : Pair Binary64) (overscan : Index) : Steps (Viewport Binary64) := do
  change ({ · with client := size })
  lookup (·.viewport overscan)

/-! ### Steps that are all taken -/

/-- The steps are all taken: they turn one file into another and tell something. -/
def Gives (steps : Steps α) (file : OpenFile) (a : α) (after : OpenFile) : Prop :=
  steps.run.run file = (.ok a, after)

variable {file m after : OpenFile}

/-- Steps that are taken one after the other. -/
theorem Gives.bind {steps : Steps α} {next : α → Steps β} {a : α} {b : β}
    (h : steps.Gives file a m) (h' : (next a).Gives m b after) :
    (steps >>= next).Gives file b after := by
  simp only [Gives, ExceptT.run_bind, StateT.run_bind] at h h' ⊢
  rw [h]
  exact h'

/-- What is found in the file is told, and the file stays. -/
theorem gives_lookup {find : OpenFile → Except GridError α} {a : α} (h : find file = .ok a) :
    (lookup find).Gives file a file := by
  rw [Gives, ← h]
  rfl

/-- A write that succeeds is one step. -/
theorem gives_write {a : Address} {value : Option CellValue} (h : file.write a value = .ok after) :
    (write a value).Gives file () after := by
  obtain ⟨sheet, hsheet, h⟩ := Except.bind_eq_ok_iff.1 h
  cases h
  exact (gives_lookup hsheet).bind rfl

/-- Writes that succeed are steps that are all taken. -/
theorem gives_writeAll {cells : List (Address × Option CellValue)}
    (h : file.writeAll cells = .ok after) : (writeAll cells).Gives file () after := by
  induction cells generalizing file with
  | nil =>
    cases h
    rfl
  | cons cell cells ih =>
    rw [OpenFile.writeAll, List.foldlM_cons] at h
    obtain ⟨next, hnext, h⟩ := Except.bind_eq_ok_iff.1 h
    exact (gives_write hnext).bind (ih h)

/-- Steps that begin by looking at the file. -/
theorem gives_get_bind {next : OpenFile → Steps α} {a : α} (h : (next file).Gives file a after) :
    (get >>= next).Gives file a after :=
  Gives.bind (a := file) rfl h

/-- The end of typing tells whether there was a text. -/
theorem gives_commit (h : file.commit = .ok after) : commit.Gives file file.edit.isSome after := by
  refine gives_get_bind ?_
  rw [OpenFile.commit] at h
  split at h
  · rename_i hedit
    cases h
    simp only [hedit]
    rfl
  · rename_i session hedit
    simp only [hedit]
    -- the text is gone before it is written
    exact Gives.bind (m := { file with edit := none }) rfl ((gives_write h).bind rfl)

/-- Keeping how the sheet is looked at is a step. -/
theorem gives_capture (h : file.capture = .ok after) : capture.Gives file () after := by
  obtain ⟨sheet, hsheet, h⟩ := Except.bind_eq_ok_iff.1 h
  cases h
  exact (gives_lookup hsheet).bind rfl

/-- The view that is told is the one that was kept. -/
theorem gives_captureView (h : file.capture = .ok after) :
    captureView.Gives file after.view after :=
  (gives_capture h).bind rfl

/-- A sheet that can be shown is shown by steps that are all taken. -/
theorem gives_restore {options : GridOptions} {name : String}
    (h : file.restore options name = .ok after) : (restore options name).Gives file () after := by
  obtain ⟨sheet, hsheet, h⟩ := Except.bind_eq_ok_iff.1 h
  cases h
  exact gives_get_bind ((gives_lookup hsheet).bind rfl)

/-- The steps of a press of the pointer. -/
theorem gives_pointerDown {a : Address} {extend : Bool}
    (h : file.pointerDown a extend = .ok after) : (pointerDown a extend).Gives file () after := by
  refine gives_get_bind ?_
  rw [OpenFile.pointerDown] at h
  split at h
  · rename_i hother
    obtain ⟨committed, hcommitted, h⟩ := Except.bind_eq_ok_iff.1 h
    cases h
    simp only [hother, if_true]
    exact (gives_commit hcommitted).bind rfl
  · rename_i hother
    cases h
    simp only [hother]
    rfl

/-- The steps of the release of the pointer. -/
theorem gives_pointerUp (h : file.pointerUp = .ok after) : pointerUp.Gives file () after :=
  Gives.bind (m := { file with dragging := false }) rfl (gives_capture h)

/-- The steps of two presses of the pointer. -/
theorem gives_doubleClick {a : Address} (h : file.doubleClick a = .ok after) :
    (doubleClick a).Gives file () after := by
  obtain ⟨committed, hcommitted, h⟩ := Except.bind_eq_ok_iff.1 h
  obtain ⟨sheet, hsheet, h⟩ := Except.bind_eq_ok_iff.1 h
  cases h
  exact (gives_commit hcommitted).bind ((gives_lookup hsheet).bind rfl)

/-- What comes after the end of typing is not refused any more. -/
theorem gives_commitThen {f : OpenFile → OpenFile}
    (h : (file.commit >>= fun committed => .ok (f committed)) = .ok after) :
    (commitThen f).Gives file () after := by
  obtain ⟨committed, hcommitted, h⟩ := Except.bind_eq_ok_iff.1 h
  cases h
  exact (gives_commit hcommitted).bind rfl

/-- The steps of a typed character. -/
theorem gives_typeChar {c : Char} {used : Bool} (h : file.typeChar c = .ok (used, after)) :
    (typeChar c).Gives file used after := by
  refine gives_get_bind ?_
  rw [OpenFile.typeChar] at h
  -- the steps tell the same cases apart as the operation
  cases hedit : file.edit with
  | some session =>
    rw [hedit] at h
    cases h
    rfl
  | none =>
    cases hselection : file.selection.filter Selection.isSingleCell with
    | none =>
      rw [hedit, hselection] at h
      cases h
      rfl
    | some selection =>
      rw [hedit, hselection] at h
      obtain ⟨written, hwritten, h⟩ := Except.bind_eq_ok_iff.1 h
      cases h
      exact (gives_write hwritten).bind rfl

/-- The steps that confirm a text. -/
theorem gives_commitEdit {ended : Bool} (h : file.commitEdit = .ok (ended, after)) :
    commit.Gives file ended after := by
  obtain ⟨committed, hcommitted, h⟩ := Except.bind_eq_ok_iff.1 h
  cases h
  exact gives_commit hcommitted

/-- The steps of leaving the grid. -/
theorem gives_blur {ended : Bool} (h : file.blur = .ok (ended, after)) :
    blur.Gives file ended after :=
  Gives.bind (m := { file with dragging := false }) rfl (gives_commitEdit h)

/-- The steps that clear the selection, one for each cell. -/
theorem gives_delete {n : Nat} (h : file.delete = .ok (n, after)) : delete.Gives file n after := by
  refine gives_get_bind ?_
  rw [OpenFile.delete] at h
  split at h
  · rename_i hedit
    cases h
    simp only [hedit, if_true]
    rfl
  · rename_i hedit
    simp only [hedit]
    obtain ⟨selected, hselected, h⟩ := Except.bind_eq_ok_iff.1 h
    refine (gives_lookup hselected).bind ?_
    cases selected with
    | none =>
      cases h
      rfl
    | some range =>
      obtain ⟨sheet, hsheet, h⟩ := Except.bind_eq_ok_iff.1 h
      obtain ⟨cleared, hcleared, h⟩ := Except.bind_eq_ok_iff.1 h
      cases h
      exact (gives_lookup hsheet).bind ((gives_writeAll hcleared).bind rfl)

/-- The steps that paste rows, one for each field. -/
theorem gives_pasteRows {selection : Selection} {rows : List (List (List Char))}
    {range : CellRange} (hsound : file.content.Sound)
    (h : file.pasteRows selection rows = .ok (range, after)) :
    (pasteRows selection rows).Gives file range after := by
  obtain ⟨committed, hcommitted, h⟩ := Except.bind_eq_ok_iff.1 h
  obtain ⟨written, hwritten, h⟩ := Except.bind_eq_ok_iff.1 h
  cases h
  refine (gives_commit hcommitted).bind ((gives_writeAll hwritten).bind ?_)
  -- the sheet that the fields were written to is looked up once more
  have hsheet : ∃ sheet, written.sheet = .ok sheet := by
    obtain ⟨_, hok, hcontent⟩ := commit_content hsound
    cases hok.symm.trans hcommitted
    have hsound := hsound.applyAll file.commitChanges
    obtain ⟨_, hok, hcontent'⟩ := writeAll_content (hcontent ▸ hsound) _
    cases hok.symm.trans hwritten
    have hwritten : written.content.Sound := by
      rw [hcontent', hcontent]
      exact hsound.applyAll _
    obtain ⟨sheet, -, hsheet⟩ := exists_sheet hwritten
    exact ⟨sheet, hsheet⟩
  obtain ⟨sheet, hsheet⟩ := hsheet
  exact (gives_lookup hsheet).bind rfl

/-- The steps that insert or delete lines. -/
theorem gives_restructure {f : Worksheet → Worksheet} (h : file.restructure f = .ok after) :
    (restructure f).Gives file () after := by
  obtain ⟨committed, hcommitted, h⟩ := Except.bind_eq_ok_iff.1 h
  obtain ⟨sheet, hsheet, h⟩ := Except.bind_eq_ok_iff.1 h
  cases h
  exact (gives_commit hcommitted).bind ((gives_lookup hsheet).bind rfl)

/-- The steps that take a write back. -/
theorem gives_takeBack {undone : Bool} (h : file.takeBack = .ok (undone, after)) :
    takeBack.Gives file undone after := by
  refine Gives.bind (m := { file with edit := none }) rfl (gives_get_bind ?_)
  simp only [OpenFile.takeBack] at h
  cases hpop : file.undo.pop with
  | none =>
    rw [hpop] at h
    cases h
    rfl
  | some popped =>
    rw [hpop] at h
    obtain ⟨sheet, hsheet, h⟩ := Except.bind_eq_ok_iff.1 h
    cases h
    -- the record is gone before its sheet is looked up
    refine Gives.bind (m := { file with edit := none, undo := popped.2 }) rfl ?_
    exact (gives_lookup hsheet).bind rfl

/-- The steps of scrolling. -/
theorem gives_scrolled {event : ScrollEvent Binary64} {overscan : Index}
    {viewport : Option (Viewport Binary64)}
    (h : file.scrolled event overscan = .ok (viewport, after)) :
    (scrolled event overscan).Gives file viewport after := by
  refine Gives.bind (m := { file with client := event.client }) rfl (gives_get_bind ?_)
  simp only [OpenFile.scrolled] at h ⊢
  split at h
  · rename_i hechoes
    cases h
    rw [if_pos hechoes]
    rfl
  · rename_i hechoes
    obtain ⟨shown, hshown, h⟩ := Except.bind_eq_ok_iff.1 h
    cases h
    rw [if_neg hechoes]
    refine Gives.bind (m := { file with
      client := event.client, scroll := event.scroll, extent := file.extent.afterScroll event })
      rfl ?_
    exact (gives_lookup hshown).bind rfl

/-- The steps that set the size of a line. -/
theorem gives_resize {axis : Axis} {i : Index} {size : Binary64}
    (h : file.resize axis i size = .ok after) : (resize axis i size).Gives file () after := by
  obtain ⟨sheet, hsheet, h⟩ := Except.bind_eq_ok_iff.1 h
  cases h
  exact (gives_lookup hsheet).bind rfl

/-- The steps that show another sheet. -/
theorem gives_showSheet {options : GridOptions} {name : String}
    (h : file.showSheet options name = .ok after) :
    (showSheet options name).Gives file () after := by
  obtain ⟨sheet, hsheet, h⟩ := Except.bind_eq_ok_iff.1 h
  obtain ⟨committed, hcommitted, h⟩ := Except.bind_eq_ok_iff.1 h
  obtain ⟨captured, hcaptured, h⟩ := Except.bind_eq_ok_iff.1 h
  refine (gives_lookup hsheet).bind ((gives_commit hcommitted).bind ?_)
  refine (gives_capture hcaptured).bind ?_
  exact Gives.bind (m := { captured with selection := none }) rfl (gives_restore h)

/-- The steps that give the window a size. -/
theorem gives_setClient {size : Pair Binary64} {overscan : Index} {viewport : Viewport Binary64}
    (h : { file with client := size }.viewport overscan = .ok viewport) :
    (setClient size overscan).Gives file viewport { file with client := size } :=
  Gives.bind (m := { file with client := size }) rfl (gives_lookup h)

/-! ### Steps of which one is refused -/

/-- One of the steps is refused. The steps before it leave the file as it is then. -/
def Stops (steps : Steps α) (file : OpenFile) (error : GridError) (after : OpenFile) : Prop :=
  steps.run.run file = (.error error, after)

/-- A step that is refused keeps the following ones from being taken. -/
theorem Stops.bind {steps : Steps α} {next : α → Steps β} {error : GridError}
    (h : steps.Stops file error after) : (steps >>= next).Stops file error after := by
  simp only [Stops, ExceptT.run_bind, StateT.run_bind] at h ⊢
  rw [h]
  rfl

/-- A sheet that does not exist is refused before anything is changed. -/
theorem stops_showSheet (options : GridOptions) {name : String} (hname : name ∉ file.book.names) :
    (showSheet options name).Stops file (.unknownSheet name) file := by
  refine Stops.bind ?_
  rw [Stops, ← Workbook.sheet_eq_error hname]
  rfl

end Steps

end EnsembleDesk

import EnsembleDesk.Proofs.Session.Content
/-!
# What operations change

`Editor.changes` lists the elementary changes that an operation makes to the content of the open
file, and `Editor.content_perform` says that it makes no others: the content after an operation is
the content before it, changed by the list. An operation that is refused makes the changes that came
before it was: none, or those of a save that could not be written.

What holds of the content of a file in every reachable editor is therefore shown for the elementary
changes alone.
-/

namespace EnsembleDesk

namespace OpenFile

/-- The changes that end the typing of a text. -/
def commitChanges (file : OpenFile) : List Change :=
  match file.edit with
  | none => []
  | some session => [.write session.cell (CellValue.ofInput session.text.toList)]

/-- The changes that write several cells. -/
def writeChanges (cells : List (Address × Option CellValue)) : List Change :=
  cells.map fun cell => .write cell.1 cell.2

/-- The cells that are cleared with the selection: those selected that are not empty. -/
def clearedCells (file : OpenFile) : List Address :=
  match file.selected, file.sheet with
  | .ok (some range), .ok sheet => sheet.cells.positions.filter fun a => a ∈ range
  | _, _ => []

/-- The rectangle that rows of fields take when they are pasted. -/
def pastedRange (selection : Selection) (rows : List (List (List Char))) : CellRange :=
  let anchor := selection.range.start
  .spanning anchor (anchor.offset (rows.length - 1) ((max (Tabbed.width rows) 1 : Nat) - 1))

/-- The changes that paste rows of fields. -/
def pasteChanges (file : OpenFile) (selection : Selection) (rows : List (List (List Char))) :
    List Change :=
  file.commitChanges ++ writeChanges (fieldWrites selection.range.start rows) ++
    [.cover (pastedRange selection rows)]

/-- The view that a sheet is shown with after the typing of a text has ended and the view of the
sheet before it was kept. -/
def viewOf (file : OpenFile) (name : String) : SheetView :=
  match file.commit >>= capture with
  | .ok file => (file.view.sheet? name).getD { sheet := name }
  | .error _ => { sheet := name }

end OpenFile

namespace Editor

/-- The elementary changes that a command makes to the content of the open file. -/
def commandChanges (editor : Editor) (file : OpenFile) : Command → List Change
  | .pointerDown a _ => if file.editsOtherThan a then file.commitChanges else []
  | .doubleClick _ => file.commitChanges
  | .arrow _ _ => file.commitChanges
  | .selectLine _ _ => file.commitChanges
  | .typeChar c =>
    if isControl c then []
    else match file.edit, file.selection.filter Selection.isSingleCell with
      | none, some selection => [.write selection.anchor (some (.text ""))]
      | _, _ => []
  | .commitEdit => file.commitChanges
  | .blur => file.commitChanges
  | .delete =>
    if file.edit.isSome then []
    else OpenFile.writeChanges (file.clearedCells.map fun a => (a, none))
  | .paste =>
    match file.selection, editor.clipboard.read? with
    | some selection, some text =>
      match Tabbed.read text.toList with
      | [] => []
      | rows => file.pasteChanges selection rows
    | _, _ => []
  | .insertLine axis i => file.commitChanges ++ [.insertLine axis i]
  | .deleteLine axis i => file.commitChanges ++ [.deleteLine axis i]
  | .undo => [.takeBack]
  | .resize axis i size => [.resize axis i size]
  | .setActiveSheet name =>
    if name ∈ file.book.names then file.commitChanges ++ [.present name (file.viewOf name)] else []
  | .pointerMove _ => []
  | .pointerUp => []
  | .setEditText _ => []
  | .copy => []
  | .scroll _ => []

/-- The elementary changes that an operation makes to the content of the open file, if it neither
opens nor closes one. -/
def changes (editor : Editor) (file : OpenFile) : Operation → List Change
  | .command command => editor.commandChanges file command
  | .save => file.commitChanges ++ if editor.store.writable then [.save] else []
  | .write a value => [.write a value]
  | .writeJson a value =>
    match CellValue.ofJson value with
    | .ok value => [.write a (some value)]
    | .error _ => []
  | .captureView => []
  | .setClient _ => []
  | .openFile _ _ => []
  | .close => []

end Editor

/-! ### The parts of operations -/

namespace OpenFile

variable {file : OpenFile}

/-- The sheet that is shown exists. -/
theorem exists_sheet (h : file.content.Sound) :
    ∃ sheet, file.book.sheet? file.active = some sheet ∧ file.sheet = .ok sheet := by
  obtain ⟨sheet, hsheet⟩ := Workbook.mem_names_iff.1 h.active
  exact ⟨sheet, hsheet, Workbook.sheet_eq_ok hsheet⟩

/-- A write succeeds, and changes the content as one elementary change does. -/
theorem write_content (h : file.content.Sound) (a : Address) (value : Option CellValue) :
    Yields (file.write a value) fun after =>
      after.content = file.content.apply (.write a value) := by
  obtain ⟨sheet, hsheet, hok⟩ := exists_sheet h
  rw [write, hok, Except.ok_bind]
  refine .ok ?_
  -- the record names the value that the sheet shows, which is that of the workbook
  rw [Content.apply, Content.edit, show file.content.book.cell? file.content.active a =
    sheet.value a from Workbook.cell?_eq_value hsheet a]
  rfl

/-- Several writes succeed, and change the content by one elementary change each. -/
theorem writeAll_content (h : file.content.Sound) (cells : List (Address × Option CellValue)) :
    Yields (file.writeAll cells) fun after =>
      after.content = file.content.applyAll (writeChanges cells) := by
  induction cells generalizing file with
  | nil => exact .ok rfl
  | cons cell cells ih =>
    rw [writeAll, List.foldlM_cons]
    refine (write_content h cell.1 cell.2).bind fun next hnext => ?_
    refine (ih (hnext ▸ h.apply (.write cell.1 cell.2))).imp fun after hafter => ?_
    rw [hafter, hnext]
    rfl

/-- Typing can always be ended, which writes the typed text. -/
theorem commit_content (h : file.content.Sound) :
    Yields file.commit fun after =>
      after.content = file.content.applyAll file.commitChanges := by
  rw [commit, commitChanges]
  cases file.edit with
  | none => exact .ok rfl
  | some session => exact @write_content { file with edit := none } h _ _

/-- How the sheet is looked at can always be kept; the content is the same. -/
theorem capture_content (h : file.content.Sound) :
    Yields file.capture fun after => after.content = file.content := by
  obtain ⟨sheet, -, hok⟩ := exists_sheet h
  rw [capture, hok, Except.ok_bind]
  exact .ok rfl

/-- A sheet of the book can always be shown, which is one elementary change. -/
theorem restore_content {name : String} (hname : name ∈ file.book.names) (options : GridOptions) :
    Yields (file.restore options name) fun after =>
      after.content =
        file.content.apply (.present name ((file.view.sheet? name).getD { sheet := name })) := by
  obtain ⟨sheet, hsheet⟩ := Workbook.mem_names_iff.1 hname
  rw [restore, Workbook.sheet_eq_ok hsheet, Except.ok_bind]
  exact .ok (file.content.apply_present hname _).symm

/-- A press of the pointer ends the typing in another cell. -/
theorem pointerDown_content (h : file.content.Sound) (a : Address) (extend : Bool) :
    Yields (file.pointerDown a extend) fun after =>
      after.content =
        file.content.applyAll (if file.editsOtherThan a then file.commitChanges else []) := by
  rw [pointerDown]
  split
  · exact (commit_content h).bind fun next hnext => .ok hnext
  · exact .ok rfl

/-- Dragging changes no content. -/
theorem pointerMove_content (a : Address) :
    (file.pointerMove a).2.content = file.content.applyAll [] := by
  rw [pointerMove]
  split
  · split <;> rfl
  · rfl

/-- A text that is only typed changes no content. -/
theorem setEditText_content (text : String) :
    (file.setEditText text).2.content = file.content.applyAll [] := by
  rw [setEditText]
  split <;> rfl

/-- Two presses of the pointer end the typing. -/
theorem doubleClick_content (h : file.content.Sound) (a : Address) :
    Yields (file.doubleClick a) fun after =>
      after.content = file.content.applyAll file.commitChanges := by
  refine (commit_content h).bind fun next hnext => ?_
  -- the sheet that is shown still exists after the typing has ended
  obtain ⟨sheet, -, hok⟩ := exists_sheet (hnext ▸ h.applyAll file.commitChanges)
  rw [hok, Except.ok_bind]
  exact .ok hnext

/-- An arrow key ends the typing. -/
theorem arrow_content (h : file.content.Sound) (direction : Direction) (extend : Bool) :
    Yields (file.arrow direction extend) fun after =>
      after.content = file.content.applyAll file.commitChanges :=
  (commit_content h).bind fun _ hnext => .ok hnext

/-- The selection of a whole line ends the typing. -/
theorem selectLine_content (h : file.content.Sound) (axis : Axis) (i : Index) :
    Yields (file.selectLine axis i) fun after =>
      after.content = file.content.applyAll file.commitChanges :=
  (commit_content h).bind fun _ hnext => .ok hnext

/-- A confirmed text is written. -/
theorem commitEdit_content (h : file.content.Sound) :
    Yields file.commitEdit fun result =>
      result.2.content = file.content.applyAll file.commitChanges :=
  (commit_content h).bind fun _ hnext => .ok hnext

/-- Pasting ends the typing and writes one cell for each field. -/
theorem pasteRows_content (h : file.content.Sound) (selection : Selection)
    (rows : List (List (List Char))) :
    Yields (file.pasteRows selection rows) fun result =>
      result.2.content = file.content.applyAll (file.pasteChanges selection rows) := by
  refine (commit_content h).bind fun next hnext => ?_
  have hsound := h.applyAll file.commitChanges
  refine (writeAll_content (hnext ▸ hsound) _).bind fun written hwritten => .ok ?_
  rw [pasteChanges, Content.applyAll_append, Content.applyAll_append, ← hnext, ← hwritten]
  rfl

/-- A change of lines ends the typing, clears the log and marks the file as restructured. -/
theorem restructure_content (h : file.content.Sound) {change : Worksheet → Worksheet} {c : Change}
    (hchange : ∀ content : Content, content.apply c =
      { content.updateSheet change with undo := content.undo.clear, restructured := true }) :
    Yields (file.restructure change) fun after =>
      after.content = file.content.applyAll (file.commitChanges ++ [c]) := by
  refine (commit_content h).bind fun next hnext => ?_
  obtain ⟨sheet, -, hok⟩ := exists_sheet (hnext ▸ h.applyAll file.commitChanges)
  rw [hok, Except.ok_bind]
  refine .ok ?_
  -- the two kinds of `change` differ in what they do to the sheet alone
  rw [Content.applyAll_append, ← hnext, Content.applyAll_cons, hchange]
  rfl

/-- The size of a line is one elementary change. -/
theorem resize_content (h : file.content.Sound) (axis : Axis) (i : Index) (size : Binary64) :
    Yields (file.resize axis i size) fun after =>
      after.content = file.content.applyAll [.resize axis i size] := by
  obtain ⟨sheet, -, hok⟩ := exists_sheet h
  rw [resize, hok, Except.ok_bind]
  exact .ok rfl

/-- The cells of the selection are cleared, unless a text is being typed. -/
theorem delete_content (h : file.content.Sound) :
    Yields file.delete fun result =>
      result.2.content = file.content.applyAll
        (if file.edit.isSome then []
          else writeChanges (file.clearedCells.map fun a => (a, none))) := by
  rw [delete]
  split
  · exact .ok rfl
  · obtain ⟨sheet, -, hok⟩ := exists_sheet h
    -- the cells that are cleared are found twice, by the operation and by `clearedCells`
    have hselected : file.selected =
        .ok (file.selection.bind fun selection => selection.clamped sheet.used) := by
      rw [selected, hok, Except.ok_bind]
    rw [clearedCells, hselected, hok, Except.ok_bind]
    cases file.selection.bind fun selection => selection.clamped sheet.used with
    | none => exact .ok rfl
    | some range => exact (writeAll_content h _).bind fun cleared hcleared => .ok hcleared

/-- Without a recorded write nothing is taken back, but the typed text is dropped. -/
theorem takeBack_of_nil (h : file.undo.edits = []) :
    file.takeBack = .ok (false, { file with edit := none }) := by
  have hpop : file.undo.pop = none := by rw [UndoLog.pop, h]
  simp only [takeBack, hpop]

/-- The last recorded write is taken back on its own sheet. -/
theorem takeBack_of_cons {edit : CellEdit} {edits : List CellEdit}
    (h : file.undo.edits = edit :: edits) (hsheet : edit.sheet ∈ file.book.names) :
    file.takeBack = .ok (true, { file with
      edit := none, undo := { file.undo with edits }, book := file.book.takeBack edit }) := by
  obtain ⟨sheet, hsheet⟩ := Workbook.mem_names_iff.1 hsheet
  have hpop : file.undo.pop = some (edit, { file.undo with edits }) := by rw [UndoLog.pop, h]
  simp only [takeBack, hpop, Workbook.sheet_eq_ok hsheet, Except.ok_bind]
  rfl

/-- Taking back never fails, because recorded writes are on sheets of the book. -/
theorem takeBack_content (h : file.content.Sound) :
    Yields file.takeBack fun result =>
      result.2.content = file.content.applyAll [.takeBack] := by
  rw [Content.applyAll_cons, Content.apply, UndoLog.pop,
    show file.content.undo = file.undo from rfl]
  cases hedits : file.undo.edits with
  | nil => exact ⟨_, takeBack_of_nil hedits, rfl⟩
  | cons edit edits =>
    exact ⟨_, takeBack_of_cons hedits (h.edits edit (hedits ▸ List.mem_cons_self)), rfl⟩

/-- The visible part can always be computed, because the sheet that is shown exists. -/
theorem viewport_yields (h : file.content.Sound) (overscan : Index) :
    Yields (file.viewport overscan) fun _ => True := by
  obtain ⟨sheet, -, hok⟩ := exists_sheet h
  rw [viewport, hok, Except.ok_bind]
  exact .ok trivial

/-- Scrolling changes no content. -/
theorem scrolled_content (h : file.content.Sound) (event : ScrollEvent Binary64)
    (overscan : Index) :
    Yields (file.scrolled event overscan) fun result => result.2.content = file.content := by
  rw [scrolled]
  split
  · exact .ok rfl
  · exact (@viewport_yields { file with
      client := event.client, scroll := event.scroll, extent := file.extent.afterScroll event }
      h overscan).bind fun _ _ => .ok rfl

/-- Another sheet of the book is shown after the typing has ended. -/
theorem showSheet_content (h : file.content.Sound) (options : GridOptions) {name : String}
    (hname : name ∈ file.book.names) :
    Yields (file.showSheet options name) fun after =>
      after.content =
        file.content.applyAll (file.commitChanges ++ [.present name (file.viewOf name)]) := by
  obtain ⟨sheet, hsheet⟩ := Workbook.mem_names_iff.1 hname
  obtain ⟨committed, hcommit, hcommitted⟩ := commit_content h
  have hsound := h.applyAll file.commitChanges
  obtain ⟨captured, hcapture, hcaptured⟩ := capture_content (hcommitted ▸ hsound)
  -- the sheet that is to be shown is looked up before the typing ends, and shown after it
  have hnames : captured.book.names = file.book.names := by
    have := Content.names_applyAll file.content file.commitChanges
    rwa [← hcommitted, ← hcaptured] at this
  have hview : file.viewOf name = (captured.view.sheet? name).getD { sheet := name } := by
    rw [viewOf, hcommit, Except.ok_bind, hcapture]
  rw [showSheet, Workbook.sheet_eq_ok hsheet, hcommit, Except.ok_bind, Except.ok_bind, hcapture,
    Except.ok_bind, hview, Content.applyAll_append, ← hcommitted, ← hcaptured]
  exact @restore_content { captured with selection := none } name (hnames ▸ hname) options

end OpenFile

/-! ### Operations -/

namespace Editor

variable {editor : Editor} {file : OpenFile} {content : Content}

/-- What an action that answers makes of the content becomes the content of the open file. -/
theorem content_withFile (hfile : editor.file = some file)
    {action : OpenFile → Except GridError (Answer × OpenFile)}
    (h : Yields (action file) fun result => result.2.content = content) :
    ∃ after, (editor.withFile action).2.file = some after ∧ after.content = content := by
  obtain ⟨⟨answer, after⟩, hok, hcontent⟩ := h
  refine ⟨after, ?_, hcontent⟩
  simp only [withFile, hfile, hok]

/-- What an action makes of the content becomes the content of the open file. -/
theorem content_changeFile (hfile : editor.file = some file)
    {action : OpenFile → Except GridError OpenFile}
    (h : Yields (action file) fun after => after.content = content) :
    ∃ after, (editor.changeFile action).2.file = some after ∧ after.content = content :=
  content_withFile hfile (h.map fun _ hafter => hafter)

/-- Copying leaves the open file as it is. -/
theorem file_copy (editor : Editor) : editor.copy.2.file = editor.file := by
  rw [copy]
  split
  · rfl
  · split
    · rfl
    · rfl
    · split <;> rfl

/-- What pasting makes of the content, with or without something on the clipboard. -/
theorem content_paste (hfile : editor.file = some file) (h : file.content.Sound) :
    ∃ after, editor.paste.2.file = some after ∧
      after.content = file.content.applyAll (editor.commandChanges file .paste) := by
  simp only [paste, commandChanges, hfile]
  cases file.selection with
  | none => exact ⟨file, hfile, rfl⟩
  | some selection =>
    cases editor.clipboard.read? with
    | none => exact ⟨file, hfile, rfl⟩
    | some text =>
      -- an empty clipboard is told from one with rows
      cases hrows : Tabbed.read text.toList with
      | nil => simpa only [hrows] using ⟨file, hfile, rfl⟩
      | cons row rows =>
        simp only [hrows]
        exact content_withFile hfile
          ((OpenFile.pasteRows_content h _ _).map fun _ hafter => hafter)

/-- A typed character changes no content, as it is not yet written. -/
theorem content_typeChar (hfile : editor.file = some file) (h : file.content.Sound) (c : Char) :
    ∃ after, (editor.performCommand (.typeChar c)).2.file = some after ∧
      after.content = file.content.applyAll (editor.commandChanges file (.typeChar c)) := by
  simp only [performCommand, commandChanges]
  split
  · exact ⟨file, hfile, rfl⟩
  · refine content_withFile hfile (Yields.map (P := fun result => result.2.content = _) ?_
      fun _ hafter => hafter)
    rw [OpenFile.typeChar]
    cases hedit : file.edit with
    | some session => exact .ok rfl
    | none =>
      cases file.selection.filter Selection.isSingleCell with
      | none => exact .ok rfl
      | some selection => exact (OpenFile.write_content h _ _).bind fun _ hafter => .ok hafter

/-- A command makes the changes of `commandChanges`. -/
theorem content_performCommand (hfile : editor.file = some file) (h : file.content.Sound)
    (command : Command) :
    ∃ after, (editor.performCommand command).2.file = some after ∧
      after.content = file.content.applyAll (editor.commandChanges file command) := by
  cases command with
  | pointerDown a extend => exact content_changeFile hfile (OpenFile.pointerDown_content h a extend)
  | pointerMove a => exact content_withFile hfile (.ok (OpenFile.pointerMove_content a))
  | pointerUp =>
    exact content_changeFile hfile
      (@OpenFile.capture_content { file with dragging := false } h)
  | doubleClick a => exact content_changeFile hfile (OpenFile.doubleClick_content h a)
  | arrow direction extend =>
    exact content_changeFile hfile (OpenFile.arrow_content h direction extend)
  | selectLine axis i => exact content_changeFile hfile (OpenFile.selectLine_content h axis i)
  | typeChar c => exact content_typeChar hfile h c
  | setEditText text => exact content_withFile hfile (.ok (OpenFile.setEditText_content text))
  | commitEdit =>
    exact content_withFile hfile ((OpenFile.commitEdit_content h).map fun _ hafter => hafter)
  | blur =>
    exact content_withFile hfile
      ((@OpenFile.commitEdit_content { file with dragging := false } h).map
        fun _ hafter => hafter)
  | delete => exact content_withFile hfile ((OpenFile.delete_content h).map fun _ hafter => hafter)
  -- copying changes the clipboard alone
  | copy => exact ⟨file, (file_copy editor).trans hfile, rfl⟩
  | paste => exact content_paste hfile h
  | insertLine axis i =>
    exact content_changeFile hfile (OpenFile.restructure_content h fun _ => rfl)
  | deleteLine axis i =>
    exact content_changeFile hfile (OpenFile.restructure_content h fun _ => rfl)
  | undo => exact content_withFile hfile ((OpenFile.takeBack_content h).map fun _ hafter => hafter)
  | scroll event =>
    exact content_withFile hfile
      ((OpenFile.scrolled_content h event editor.options.overscan).map fun _ hafter => hafter)
  | resize axis i size => exact content_changeFile hfile (OpenFile.resize_content h axis i size)
  | setActiveSheet name =>
    simp only [performCommand, commandChanges]
    split
    · rename_i hname
      exact content_changeFile hfile (OpenFile.showSheet_content h editor.options hname)
    · rename_i hname
      -- a sheet that does not exist is refused before anything is changed
      have hrefused : file.showSheet editor.options name = .error (.unknownSheet name) := by
        rw [OpenFile.showSheet, Workbook.sheet_eq_error hname]
        rfl
      refine ⟨file, ?_, rfl⟩
      simp only [changeFile, withFile, hfile, hrefused]
      exact hfile

/-- Saving ends the typing of a text; then it saves the content, or it is refused. -/
theorem save_cases (hfile : editor.file = some file) (h : file.content.Sound) :
    (editor.store.writable = true ∧ ∃ answer after,
      editor.save.1 = .ok answer ∧ editor.save.2.file = some after ∧
        after.content = (file.content.applyAll file.commitChanges).apply .save) ∨
      (editor.store.writable = false ∧ ∃ error after,
        editor.save.1 = .error error ∧ editor.save.2.file = some after ∧
          after.content = file.content.applyAll file.commitChanges) := by
  obtain ⟨committed, hcommit, hcommitted⟩ := OpenFile.commit_content h
  obtain ⟨captured, hcapture, hcaptured⟩ :=
    OpenFile.capture_content (hcommitted ▸ h.applyAll file.commitChanges)
  -- the typing has ended and the view is kept before the store is asked
  simp only [save, hfile, hcommit, Except.ok_bind, hcapture, FileStore.write?]
  rw [← hcommitted, ← hcaptured]
  cases hwritable : editor.store.writable with
  | true => exact .inl ⟨rfl, _, _, rfl, rfl, rfl⟩
  | false => exact .inr ⟨rfl, _, _, rfl, rfl, rfl⟩

/-- Saving ends the typing, and sets the save point if the file could be written. -/
theorem content_save (hfile : editor.file = some file) (h : file.content.Sound) :
    ∃ after, editor.save.2.file = some after ∧
      after.content = file.content.applyAll (editor.changes file .save) := by
  rw [changes, Content.applyAll_append]
  rcases save_cases hfile h with
    ⟨hwritable, -, after, -, hafter, hcontent⟩ | ⟨hwritable, -, after, -, hafter, hcontent⟩
  · refine ⟨after, hafter, ?_⟩
    rw [hwritable, hcontent]
    rfl
  · refine ⟨after, hafter, ?_⟩
    rw [hwritable, hcontent]
    rfl

/-- An operation that neither opens nor closes a file makes the changes of `changes`. -/
theorem content_perform (hfile : editor.file = some file) (h : file.content.Sound)
    {operation : Operation} (hopen : ∀ path view, operation ≠ .openFile path view)
    (hclose : operation ≠ .close) :
    ∃ after, (editor.perform operation).2.file = some after ∧
      after.content = file.content.applyAll (editor.changes file operation) := by
  cases operation with
  | command command => exact content_performCommand hfile h command
  | openFile path view => exact absurd rfl (hopen path view)
  | close => exact absurd rfl hclose
  | save => exact content_save hfile h
  | captureView =>
    exact content_withFile hfile ((OpenFile.capture_content h).map fun _ hafter => hafter)
  | setClient size =>
    exact content_withFile hfile
      ((@OpenFile.viewport_yields { file with client := size } h
        editor.options.overscan).bind fun _ _ => .ok rfl)
  | write a value =>
    exact content_changeFile hfile (OpenFile.write_content h a value)
  | writeJson a value =>
    simp only [perform, changes]
    cases CellValue.ofJson value with
    | error error => exact ⟨file, hfile, rfl⟩
    | ok value => exact content_changeFile hfile (OpenFile.write_content h a (some value))

end Editor

end EnsembleDesk

import EnsembleDesk.Proofs.Session.Opening
/-!
# Operations that are refused

`Editor.Refuses` lists the reasons for which an operation is refused: no file is open, a file cannot
be read or written, a value is none that a cell can hold, or a sheet does not exist. A reachable
editor refuses operations for these reasons and for no others (`Editor.Reachable.refused_iff`):
the sheets that an open file names all exist, so nothing that an operation looks up can be missing.

What a refused operation leaves behind follows from the reason (`Editor.Refuses.perform_eq`); only
saving a file that cannot be written gets further than the reason, and `Editor.save_of_unwritable`
says how far.
-/

namespace EnsembleDesk

/-- Whether an operation is one on the open file. Control characters are dropped and values that no
cell can hold are refused before the file is asked for. -/
def Operation.reachesFile : Operation → Bool
  | .openFile _ _ => false
  | .close => false
  | .command (.typeChar c) => !isControl c
  | .writeJson _ value => (CellValue.ofJson value).isOk
  | _ => true

namespace OpenFile

variable {file after : OpenFile}

/-- Writing a cell keeps the path of the file. -/
theorem path_of_write {a : Address} {value : Option CellValue}
    (h : file.write a value = .ok after) : after.path = file.path := by
  obtain ⟨sheet, -, h⟩ := Except.bind_eq_ok_iff.1 h
  cases h
  rfl

/-- Ending the typing keeps the path of the file. -/
theorem path_of_commit (h : file.commit = .ok after) : after.path = file.path := by
  rw [commit] at h
  split at h
  · cases h
    rfl
  · exact (path_of_write h).trans rfl

/-- Keeping how the sheet is looked at keeps the path of the file. -/
theorem path_of_capture (h : file.capture = .ok after) : after.path = file.path := by
  obtain ⟨sheet, -, h⟩ := Except.bind_eq_ok_iff.1 h
  cases h
  rfl

end OpenFile

namespace Editor

/-- The reasons for which an operation is refused. -/
inductive Refuses (editor : Editor) : Operation → GridError → Prop where
  /-- No file is open. -/
  | closed {operation : Operation} (hfile : editor.file = none)
    (hreaches : operation.reachesFile = true) : Refuses editor operation .noFileOpen
  /-- The file that is to be opened cannot be read. -/
  | unreadable {path : String} {error : GridError} (hbook : editor.readBook path = .error error)
    (view : Option FileView) : Refuses editor (.openFile path view) error
  /-- No cell can hold the value. -/
  | unsupported {value : Json} {error : GridError} (hvalue : CellValue.ofJson value = .error error)
    (a : Address) : Refuses editor (.writeJson a value) error
  /-- The sheet that is to be shown does not exist. -/
  | unknownSheet {file : OpenFile} {name : String} (hfile : editor.file = some file)
    (hname : name ∉ file.book.names) :
    Refuses editor (.command (.setActiveSheet name)) (.unknownSheet name)
  /-- The file cannot be written. -/
  | unwritable {file : OpenFile} (hfile : editor.file = some file)
    (hstore : editor.store.writable = false) : Refuses editor .save (.writeFailed file.path)

variable {editor : Editor} {file : OpenFile} {operation : Operation} {error : GridError}

/-! ### Closed editors -/

/-- Pasting is refused without an open file. -/
theorem paste_of_none (hfile : editor.file = none) :
    editor.paste = (.error .noFileOpen, editor) := by
  simp only [paste, hfile]

/-- Copying is refused without an open file. -/
theorem copy_of_none (hfile : editor.file = none) : editor.copy = (.error .noFileOpen, editor) := by
  simp only [copy, hfile]

/-- Without an open file, what is done to the open file is refused. -/
theorem perform_of_none (hfile : editor.file = none) (hreaches : operation.reachesFile = true) :
    editor.perform operation = (.error .noFileOpen, editor) := by
  have hwith := withFile_of_none hfile
  cases operation with
  | openFile path view => cases hreaches
  | close => cases hreaches
  | save => simp only [perform, save, hfile]
  | writeJson a value =>
    cases hvalue : CellValue.ofJson value with
    | error error => simp [Operation.reachesFile, hvalue, Except.isOk, Except.toBool] at hreaches
    | ok value =>
      simp only [perform, hvalue]
      exact hwith _
  | command command =>
    cases command with
    | typeChar c =>
      simp only [Operation.reachesFile, Bool.not_eq_true'] at hreaches
      simp only [perform, performCommand, hreaches]
      exact hwith _
    | copy => exact copy_of_none hfile
    | paste => exact paste_of_none hfile
    | _ => simp only [perform, performCommand, changeFile, hwith]
  | _ => simp only [perform, changeFile, hwith]

/-! ### Files that cannot be opened -/

/-- A workbook that was read can be opened, so only one that cannot be read is refused. -/
theorem openFile_of_readBook_error {path : String} (hbook : editor.readBook path = .error error)
    (view : Option FileView) : editor.openFile path view = (.error error, editor) := by
  rw [openFile, hbook]
  rfl

/-- Opening is refused for what reading is refused for. -/
theorem readBook_of_openFile_error {path : String} {view : Option FileView}
    (h : (editor.openFile path view).1 = .error error) : editor.readBook path = .error error := by
  rcases openFile_cases editor path view with ⟨_, _, _, _, -, hopened, -⟩ | ⟨refusal, hrefused⟩
  · rw [hopened] at h
    cases h
  · cases hbook : editor.readBook path with
    | error reason =>
      rw [openFile_of_readBook_error hbook] at h
      cases h
      rfl
    | ok book =>
      obtain ⟨opened, hopened, -⟩ :=
        OpenFile.content_ofBook path book (view.getD {}) editor.options
      rw [openFile, hbook, Except.ok_bind, hopened] at hrefused
      cases hrefused

/-- Without an open file, an operation is refused for one of the reasons only. -/
theorem refuses_of_error_of_none (hfile : editor.file = none)
    (herror : (editor.perform operation).1 = .error error) : editor.Refuses operation error := by
  cases hreaches : operation.reachesFile with
  | true =>
    rw [perform_of_none hfile hreaches] at herror
    cases herror
    exact .closed hfile hreaches
  | false =>
    -- few operations do without an open file
    cases operation with
    | openFile path view => exact .unreadable (readBook_of_openFile_error herror) view
    | close => cases herror
    | writeJson a value =>
      cases hvalue : CellValue.ofJson value with
      | error reason =>
        simp only [perform, hvalue] at herror
        cases herror
        exact .unsupported hvalue a
      | ok value => simp [Operation.reachesFile, hvalue, Except.isOk, Except.toBool] at hreaches
    | command command =>
      cases command with
      | typeChar c =>
        simp only [Operation.reachesFile, Bool.not_eq_false'] at hreaches
        simp only [perform, performCommand, hreaches] at herror
        cases herror
      | _ => cases hreaches
    | _ => cases hreaches

/-! ### Sheets that do not exist -/

/-- A sheet that does not exist is refused before anything is changed. -/
theorem performCommand_of_unknownSheet (hfile : editor.file = some file) {name : String}
    (hname : name ∉ file.book.names) :
    editor.performCommand (.setActiveSheet name) = (.error (.unknownSheet name), editor) := by
  have hrefused : file.showSheet editor.options name = .error (.unknownSheet name) := by
    rw [OpenFile.showSheet, Workbook.sheet_eq_error hname]
    rfl
  simp only [performCommand, changeFile, withFile, hfile, hrefused]
  rfl

/-! ### Files that cannot be written -/

/-- Saving a file that cannot be written ends the typing of a text and keeps the view of the sheet,
and does nothing else. -/
theorem save_of_unwritable (hfile : editor.file = some file) (h : file.content.Sound)
    (hstore : editor.store.writable = false) :
    ∃ committed captured, file.commit = .ok committed ∧ committed.capture = .ok captured ∧
      editor.save = (.error (.writeFailed file.path), { editor with file := some captured }) := by
  obtain ⟨committed, hcommit, hcommitted⟩ := OpenFile.commit_content h
  obtain ⟨captured, hcapture, -⟩ :=
    OpenFile.capture_content (hcommitted ▸ h.applyAll file.commitChanges)
  refine ⟨committed, captured, hcommit, hcapture, ?_⟩
  have hpath : captured.path = file.path :=
    (OpenFile.path_of_capture hcapture).trans (OpenFile.path_of_commit hcommit)
  simp only [save, hfile, hcommit, Except.ok_bind, hcapture, FileStore.write?, hstore, hpath]
  rfl

/-! ### Open files -/

/-- An action that succeeds on the open file is answered. -/
theorem withFile_succeeds (hfile : editor.file = some file) {P : Answer × OpenFile → Prop}
    {action : OpenFile → Except GridError (Answer × OpenFile)} (h : Yields (action file) P) :
    ∃ answer, (editor.withFile action).1 = .ok answer := by
  obtain ⟨⟨answer, after⟩, hok, -⟩ := h
  exact ⟨answer, by simp only [withFile, hfile, hok]⟩

/-- An action that succeeds on the open file is answered. -/
theorem changeFile_succeeds (hfile : editor.file = some file) {P : OpenFile → Prop}
    {action : OpenFile → Except GridError OpenFile} (h : Yields (action file) P) :
    ∃ answer, (editor.changeFile action).1 = .ok answer :=
  withFile_succeeds hfile (P := fun _ => True) (h.map fun _ _ => trivial)

/-- An action that succeeds on the open file is answered with what it tells. -/
theorem withFile_map_succeeds {α : Type} {f : α → Answer} (hfile : editor.file = some file)
    {P : α × OpenFile → Prop} {action : OpenFile → Except GridError (α × OpenFile)}
    (h : Yields (action file) P) :
    ∃ answer, (editor.withFile fun file =>
      (action file).map fun result => (f result.1, result.2)).1 = .ok answer :=
  withFile_succeeds hfile (P := fun _ => True) (h.map fun _ _ => trivial)

/-- Typing a character cannot be refused. -/
theorem typeChar_yields (h : file.content.Sound) (c : Char) :
    Yields (file.typeChar c) fun _ => True := by
  rw [OpenFile.typeChar]
  split
  · exact .ok trivial
  · exact .ok trivial
  · exact (OpenFile.write_content h _ _).bind fun _ _ => .ok trivial

section

variable (hfile : editor.file = some file) (h : file.content.Sound)

include hfile h

/-- Copying is not refused while a file is open. -/
theorem copy_succeeds : ∃ answer, editor.copy.1 = .ok answer := by
  obtain ⟨sheet, -, hsheet⟩ := OpenFile.exists_sheet h
  simp only [copy, hfile, OpenFile.copyText, OpenFile.selected, hsheet, Except.ok_bind]
  cases file.selection.bind fun selection => selection.clamped sheet.used with
  | none => exact ⟨_, rfl⟩
  | some range =>
    dsimp only [Option.map_some]
    split <;> exact ⟨_, rfl⟩

/-- Pasting is not refused while a file is open. -/
theorem paste_succeeds : ∃ answer, editor.paste.1 = .ok answer := by
  simp only [paste, hfile]
  split
  · exact ⟨_, rfl⟩
  · exact ⟨_, rfl⟩
  · split
    · exact ⟨_, rfl⟩
    · exact withFile_map_succeeds (f := fun range => .pasted (some range)) hfile
        (OpenFile.pasteRows_content h _ _)

/-- Typing is not refused while a file is open. -/
theorem typeChar_succeeds (c : Char) :
    ∃ answer, (editor.performCommand (.typeChar c)).1 = .ok answer := by
  simp only [performCommand]
  split
  · exact ⟨_, rfl⟩
  · exact withFile_map_succeeds hfile (typeChar_yields h c)

/-- With an open file, a command is only refused if it shows a sheet that does not exist. -/
theorem performCommand_succeeds {command : Command}
    (hname : ∀ name, command = .setActiveSheet name → name ∈ file.book.names) :
    ∃ answer, (editor.performCommand command).1 = .ok answer := by
  -- the content is sound, so the sheet that a command works on exists
  cases command with
  | pointerDown a extend =>
    exact changeFile_succeeds hfile (OpenFile.pointerDown_content h a extend)
  | pointerMove a => exact withFile_succeeds hfile (P := fun _ => True) (.ok trivial)
  | pointerUp =>
    exact changeFile_succeeds hfile (@OpenFile.capture_content { file with dragging := false } h)
  | doubleClick a => exact changeFile_succeeds hfile (OpenFile.doubleClick_content h a)
  | arrow direction extend =>
    exact changeFile_succeeds hfile (OpenFile.arrow_content h direction extend)
  | selectLine axis i => exact changeFile_succeeds hfile (OpenFile.selectLine_content h axis i)
  | typeChar c => exact typeChar_succeeds hfile h c
  | setEditText text => exact withFile_succeeds hfile (P := fun _ => True) (.ok trivial)
  | commitEdit => exact withFile_map_succeeds hfile (OpenFile.commitEdit_content h)
  | blur =>
    exact withFile_map_succeeds hfile
      (@OpenFile.commitEdit_content { file with dragging := false } h)
  | delete => exact withFile_map_succeeds hfile (OpenFile.delete_content h)
  | copy => exact copy_succeeds hfile h
  | paste => exact paste_succeeds hfile h
  | insertLine axis i =>
    exact changeFile_succeeds hfile
      (OpenFile.restructure_content h (c := .insertLine axis i) fun _ => rfl)
  | deleteLine axis i =>
    exact changeFile_succeeds hfile
      (OpenFile.restructure_content h (c := .deleteLine axis i) fun _ => rfl)
  | undo => exact withFile_map_succeeds hfile (OpenFile.takeBack_content h)
  | scroll event =>
    exact withFile_map_succeeds hfile (OpenFile.scrolled_content h event editor.options.overscan)
  | resize axis i size => exact changeFile_succeeds hfile (OpenFile.resize_content h axis i size)
  | setActiveSheet name =>
    exact changeFile_succeeds hfile (OpenFile.showSheet_content h editor.options (hname name rfl))

/-- With an open file, an operation is refused for one of the reasons only. -/
theorem refuses_of_error (herror : (editor.perform operation).1 = .error error) :
    editor.Refuses operation error := by
  -- an operation that succeeds was not refused
  have hnot : (∃ answer, (editor.perform operation).1 = .ok answer) →
      editor.Refuses operation error := by
    rintro ⟨answer, hok⟩
    cases hok.symm.trans herror
  cases operation with
  | openFile path view => exact .unreadable (readBook_of_openFile_error herror) view
  | close => cases herror
  | save =>
    rcases save_cases hfile h with ⟨-, answer, -, hok, -⟩ | ⟨hstore, -⟩
    · exact hnot ⟨answer, hok⟩
    · obtain ⟨_, _, -, -, hrefused⟩ := save_of_unwritable hfile h hstore
      rw [perform, hrefused] at herror
      cases herror
      exact .unwritable hfile hstore
  | captureView =>
    exact hnot (withFile_succeeds hfile (P := fun _ => True)
      ((OpenFile.capture_content h).map fun _ _ => trivial))
  | setClient size =>
    exact hnot (withFile_succeeds hfile (P := fun _ => True)
      ((@OpenFile.viewport_yields { file with client := size } h
        editor.options.overscan).bind fun _ _ => .ok trivial))
  | write a value => exact hnot (changeFile_succeeds hfile (OpenFile.write_content h a value))
  | writeJson a value =>
    cases hvalue : CellValue.ofJson value with
    | error reason =>
      simp only [perform, hvalue] at herror
      cases herror
      exact .unsupported hvalue a
    | ok value =>
      refine hnot ?_
      simp only [perform, hvalue]
      exact changeFile_succeeds hfile (OpenFile.write_content h a (some value))
  | command command =>
    by_cases hname : ∀ name, command = .setActiveSheet name → name ∈ file.book.names
    · exact hnot (performCommand_succeeds hfile h hname)
    · obtain ⟨name, hshow⟩ := not_forall.1 hname
      obtain ⟨hcommand, hmissing⟩ := Classical.not_imp.1 hshow
      cases hcommand
      rw [perform, performCommand_of_unknownSheet hfile hmissing] at herror
      cases herror
      exact .unknownSheet hfile hmissing

end

/-! ### Reachable editors -/

/-- A reachable editor refuses an operation for one of the reasons, and for no other. -/
theorem Reachable.refused_iff (reached : Reachable editor) :
    (editor.perform operation).1 = .error error ↔ editor.Refuses operation error := by
  constructor
  · intro herror
    cases hfile : editor.file with
    | some file => exact refuses_of_error hfile (reached.sound hfile) herror
    | none => exact refuses_of_error_of_none hfile herror
  · intro h
    cases h with
    | closed hfile hreaches => rw [perform_of_none hfile hreaches]
    | unreadable hbook view => rw [Editor.perform, openFile_of_readBook_error hbook]
    | unsupported hvalue a => simp only [Editor.perform, hvalue]
    | unknownSheet hfile hname => rw [Editor.perform, performCommand_of_unknownSheet hfile hname]
    | unwritable hfile hstore =>
      obtain ⟨_, _, -, -, hrefused⟩ := save_of_unwritable hfile (reached.sound hfile) hstore
      rw [Editor.perform, hrefused]

end Editor

end EnsembleDesk

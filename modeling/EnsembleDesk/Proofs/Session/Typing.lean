import EnsembleDesk.Proofs.Session.Anchor
/-!
# Ending the typing of a text

A text that is being typed is kept until it is written to its cell. The operations that end the
typing (`Operation.endsTyping`) write the text first and only then move the selection, shift lines,
overwrite cells, show another sheet or save: the editor after such an operation is the one after the
text was committed and the operation carried out. Apart from the few that drop the text on purpose
(`Operation.dropsTyping`), every other operation leaves the text where it is typed.

## Main results

* `Editor.typed_text_is_kept`: the two statements above, and what committing does.
-/

namespace EnsembleDesk

namespace OpenFile

variable {file committed after : OpenFile}

/-- The typed text is written to its cell on the sheet that is shown, and the typing has ended. No
other cell has changed. -/
structure Commits (file : OpenFile) (session : EditSession) (committed : OpenFile) : Prop where
  /-- The typing has ended. -/
  edit : committed.edit = none
  /-- The same sheet is shown. -/
  active : committed.active = file.active
  /-- The text is written to its cell, and to no other. -/
  cells : ∀ name a, committed.book.cell? name a =
    if name = file.active ∧ session.cell = a then CellValue.ofInput session.text.toList
    else file.book.cell? name a

/-- Where nothing is typed, the end of typing changes nothing. -/
theorem commit_of_edit (h : file.edit = none) : file.commit = .ok file := by
  rw [commit, h]

/-- The end of typing makes the changes that write the typed text. -/
theorem content_of_commit (hsound : file.content.Sound) (h : file.commit = .ok committed) :
    committed.content = file.content.applyAll file.commitChanges := by
  obtain ⟨other, hother, hcontent⟩ := commit_content hsound
  obtain rfl : committed = other := Except.ok.inj (h.symm.trans hother)
  exact hcontent

/-- The end of typing writes the typed text to its cell and nothing else. -/
theorem commits_of_commit (hsound : file.content.Sound) {session : EditSession}
    (hedit : file.edit = some session) (h : file.commit = .ok committed) :
    file.Commits session committed := by
  have hcontent := content_of_commit hsound h
  refine ⟨edit_of_commit h, (SameFocus.of_commit h).active, fun name a => ?_⟩
  rw [commitChanges, hedit] at hcontent
  have hbook : committed.book = file.book.update file.active
      (·.put session.cell (CellValue.ofInput session.text.toList)) :=
    congrArg Content.book hcontent
  rw [hbook]
  exact Workbook.cell?_update_put hsound.active _ _ name a

/-- The end of typing leaves the selection as it is. -/
theorem selection_of_commit (h : file.commit = .ok committed) :
    committed.selection = file.selection := by
  rw [commit] at h
  split at h
  · cases h
    rfl
  · obtain ⟨sheet, -, h⟩ := Except.bind_eq_ok_iff.1 h
    cases h
    rfl

/-- The text that is typed after a cell was pressed twice is typed into it. -/
theorem cell_of_doubleClick {a : Address} (h : file.doubleClick a = .ok after)
    {session : EditSession} (hsession : after.edit = some session) : session.cell = a := by
  obtain ⟨committed, -, h⟩ := Except.bind_eq_ok_iff.1 h
  obtain ⟨sheet, -, h⟩ := Except.bind_eq_ok_iff.1 h
  cases h
  cases hsession
  rfl

/-! ### Operations that end the typing -/

section Committed

variable (hcommit : file.commit = .ok committed)

include hcommit

/-- Typing that has ended is not ended again. -/
theorem commit_committed : committed.commit = .ok committed :=
  commit_of_edit (edit_of_commit hcommit)

/-- What goes on from the end of the typing goes on in the same way when it has ended before. -/
theorem bind_commit_committed {α : Type} (next : OpenFile → Except GridError α) :
    (committed.commit >>= next) = (file.commit >>= next) := by
  rw [hcommit, commit_committed hcommit]

/-- Two presses of the pointer end the typing first. -/
theorem doubleClick_committed (a : Address) : committed.doubleClick a = file.doubleClick a :=
  bind_commit_committed hcommit _

/-- An arrow key ends the typing first. -/
theorem arrow_committed (direction : Direction) (extend : Bool) :
    committed.arrow direction extend = file.arrow direction extend :=
  bind_commit_committed hcommit _

/-- The selection of a whole line ends the typing first. -/
theorem selectLine_committed (axis : Axis) (i : Index) :
    committed.selectLine axis i = file.selectLine axis i :=
  bind_commit_committed hcommit _

/-- A change of lines ends the typing first. -/
theorem restructure_committed (change : Worksheet → Worksheet) :
    committed.restructure change = file.restructure change :=
  bind_commit_committed hcommit _

/-- Pasting ends the typing first. -/
theorem pasteRows_committed (selection : Selection) (rows : List (List (List Char))) :
    committed.pasteRows selection rows = file.pasteRows selection rows :=
  bind_commit_committed hcommit _

/-- A press on another cell ends the typing first. -/
theorem pointerDown_committed {a : Address} (h : file.editsOtherThan a = true) (extend : Bool) :
    committed.pointerDown a extend = file.pointerDown a extend := by
  -- when no text is being typed the press has nothing to end
  have hother : committed.editsOtherThan a = false := by
    rw [editsOtherThan, edit_of_commit hcommit]
  rw [pointerDown, pointerDown, if_pos h, hother, hcommit]
  rfl

/-- Showing another sheet ends the typing first. -/
theorem showSheet_committed (hsound : file.content.Sound) {name : String}
    (hname : name ∈ file.book.names) (options : GridOptions) :
    committed.showSheet options name = file.showSheet options name := by
  -- the sheet that is to be shown is there before and after the text is written
  have hnames : committed.book.names = file.book.names := by
    have := Content.names_applyAll file.content file.commitChanges
    rwa [← content_of_commit hsound hcommit] at this
  obtain ⟨sheet, hsheet⟩ := Workbook.mem_names_iff.1 hname
  obtain ⟨changed, hchanged⟩ := Workbook.mem_names_iff.1 (hnames ▸ hname)
  rw [showSheet, showSheet, Workbook.sheet_eq_ok hsheet, Workbook.sheet_eq_ok hchanged]
  exact bind_commit_committed hcommit _

/-- Releasing the pointer and ending the typing can be done in either order. -/
theorem commit_dragging (dragging : Bool) :
    { file with dragging }.commit = .ok { committed with dragging } := by
  rw [commit] at hcommit ⊢
  split at hcommit
  · rename_i hedit
    cases hcommit
    simp only [hedit]
  · rename_i session hedit
    obtain ⟨sheet, hsheet, hcommit⟩ := Except.bind_eq_ok_iff.1 hcommit
    cases hcommit
    simp only [hedit]
    exact Except.bind_eq_ok_iff.2 ⟨sheet, hsheet, rfl⟩

end Committed

end OpenFile

namespace Editor

open OpenFile

variable {editor : Editor} {file committed after : OpenFile}

/-- The editor after an operation is the one after the typing has ended and the operation was
carried out, and no text is being typed unless one was begun by pressing a cell twice. -/
structure EndsTyping (editor : Editor) (committed : OpenFile) (operation : Operation) : Prop where
  /-- The typing may have ended before. -/
  same : (editor.perform operation).2 =
    (Editor.perform { editor with file := some committed } operation).2
  /-- The typing has ended. -/
  ended : ∃ after, (editor.perform operation).2.file = some after ∧
    ∀ session, after.edit = some session → operation = .command (.doubleClick session.cell)

/-- An action that succeeds answers, and its file becomes the open one. -/
theorem withFile_ok (hfile : editor.file = some file)
    {action : OpenFile → Except GridError (Answer × OpenFile)} {answer : Answer}
    (h : action file = .ok (answer, after)) :
    editor.withFile action = (.ok answer, { editor with file := some after }) := by
  simp only [withFile, hfile, h]

namespace EndsTyping

/-- An action that is carried out on the open file, and in the same way when the typing has ended
before. -/
theorem of_withFile (hfile : editor.file = some file) {operation : Operation}
    (action : OpenFile → Except GridError (Answer × OpenFile)) {answer other : Answer}
    (h : action file = .ok (answer, after)) (h' : action committed = .ok (other, after))
    (hended : ∀ session, after.edit = some session →
      operation = .command (.doubleClick session.cell))
    (hop : editor.perform operation = editor.withFile action)
    (hop' : Editor.perform { editor with file := some committed } operation =
      Editor.withFile { editor with file := some committed } action) :
    editor.EndsTyping committed operation := by
  have hfirst := withFile_ok hfile h
  have hsecond := @withFile_ok { editor with file := some committed } _ _ rfl _ _ h'
  constructor
  · rw [hop, hop', hfirst, hsecond]
  · rw [hop, hfirst]
    exact ⟨after, rfl, hended⟩

/-- An action that is the same after the typing has ended ends it first. -/
theorem of_changeFile (hfile : editor.file = some file) {operation : Operation}
    (action : OpenFile → Except GridError OpenFile) {P : OpenFile → Prop}
    (h : Yields (action file) P) (hsame : action committed = action file)
    (hended : ∀ after, action file = .ok after →
      ∀ session, after.edit = some session → operation = .command (.doubleClick session.cell))
    (hop : editor.perform operation = editor.changeFile action)
    (hop' : Editor.perform { editor with file := some committed } operation =
      Editor.changeFile { editor with file := some committed } action) :
    editor.EndsTyping committed operation := by
  obtain ⟨after, hok, -⟩ := h
  exact of_withFile hfile _ (Except.map_eq_ok_iff.2 ⟨after, hok, rfl⟩)
    (Except.map_eq_ok_iff.2 ⟨after, hsame.trans hok, rfl⟩) (hended after hok) hop hop'

end EndsTyping

/-- Without a typed text there is none that had to be begun. -/
theorem not_typing {operation : Operation} (h : file.edit = none) :
    ∀ session, file.edit = some session → operation = .command (.doubleClick session.cell) := by
  intro session hsession
  rw [h] at hsession
  cases hsession

/-- Confirming a text tells whether there was one. -/
theorem map_commitEdit (h : file.commit = .ok committed) :
    (file.commitEdit.map fun result => (Answer.flag result.1, result.2)) =
      .ok (.flag file.edit.isSome, committed) := by
  rw [commitEdit, h]
  rfl

section Ends

variable (hfile : editor.file = some file) (hsound : file.content.Sound)
  (hcommit : file.commit = .ok committed)

include hfile hsound hcommit

/-- Pasting ends the typing first, if it is one of the operations that do. -/
theorem endsTyping_paste (hselection : file.selection ≠ none)
    (hends : Operation.endsTyping editor file (.command .paste) = true) :
    editor.EndsTyping committed (.command .paste) := by
  obtain ⟨selection, hselection⟩ := Option.ne_none_iff_exists'.1 hselection
  have hkept : committed.selection = some selection :=
    (selection_of_commit hcommit).trans hselection
  -- pasting ends the typing only if the text on the clipboard has rows
  cases htext : editor.clipboard.read? with
  | none => simp [Operation.endsTyping, htext] at hends
  | some text =>
    cases hrows : Tabbed.read text.toList with
    | nil => simp [Operation.endsTyping, htext, hrows] at hends
    | cons row rows =>
      obtain ⟨⟨range, after⟩, hok, -⟩ := pasteRows_content hsound selection (row :: rows)
      have hok' := (pasteRows_committed hcommit selection (row :: rows)).trans hok
      refine .of_withFile hfile
        (fun file => (file.pasteRows selection (row :: rows)).map fun result =>
          (.pasted (some result.1), result.2))
        (Except.map_eq_ok_iff.2 ⟨_, hok, rfl⟩) (Except.map_eq_ok_iff.2 ⟨_, hok', rfl⟩)
        (not_typing (edit_of_pasteRows hok)) ?_ ?_
      · simp only [perform, performCommand, paste, hfile, hselection, htext, hrows]
      · simp only [perform, performCommand, paste, hkept, htext, hrows]

/-- Saving ends the typing first. -/
theorem endsTyping_save : editor.EndsTyping committed .save := by
  obtain ⟨captured, hcapture, -⟩ := capture_content
    (content_of_commit hsound hcommit ▸ hsound.applyAll file.commitChanges)
  have hedit : captured.edit = none :=
    (SameFocus.of_capture hcapture).edit_eq_none (edit_of_commit hcommit)
  constructor
  · simp only [perform, save, hfile, hcommit, commit_committed hcommit, Except.ok_bind, hcapture]
  · simp only [perform, save, hfile, hcommit, Except.ok_bind, hcapture]
    -- the typing has ended, whether the file can be written or not
    split <;> exact ⟨_, rfl, not_typing hedit⟩

/-- Each command that ends the typing ends it first. -/
theorem endsTyping_command (hselection : file.selection ≠ none) {command : Command}
    (hends : Operation.endsTyping editor file (.command command) = true) :
    editor.EndsTyping committed (.command command) := by
  cases command with
  | pointerDown a extend =>
    exact .of_changeFile hfile _ (pointerDown_content hsound a extend)
      (pointerDown_committed hcommit hends extend)
      (fun after hok => not_typing (edit_of_pointerDown hends hok)) rfl rfl
  | doubleClick a =>
    refine .of_changeFile hfile _ (doubleClick_content hsound a) (doubleClick_committed hcommit a)
      (fun after hok session hsession => ?_) rfl rfl
    rw [cell_of_doubleClick hok hsession]
  | arrow direction extend =>
    exact .of_changeFile hfile _ (arrow_content hsound direction extend)
      (arrow_committed hcommit direction extend)
      (fun after hok => not_typing (edit_of_arrow hok)) rfl rfl
  | selectLine axis i =>
    exact .of_changeFile hfile _ (selectLine_content hsound axis i)
      (selectLine_committed hcommit axis i)
      (fun after hok => not_typing (edit_of_selectLine hok)) rfl rfl
  | commitEdit =>
    exact .of_withFile hfile _ (map_commitEdit hcommit)
      (map_commitEdit (commit_committed hcommit))
      (not_typing (edit_of_commit hcommit)) rfl rfl
  | blur =>
    exact .of_withFile hfile _ (map_commitEdit (commit_dragging hcommit false))
      (map_commitEdit (commit_dragging (commit_committed hcommit) false))
      (not_typing (edit_of_commit (commit_dragging hcommit false))) rfl rfl
  | paste => exact endsTyping_paste hfile hsound hcommit hselection hends
  | insertLine axis i =>
    exact .of_changeFile hfile (·.restructure (·.insertLine axis i))
      (restructure_content hsound (c := .insertLine axis i) fun _ => rfl)
      (restructure_committed hcommit _)
      (fun after hok => not_typing (edit_of_restructure hok)) rfl rfl
  | deleteLine axis i =>
    exact .of_changeFile hfile (·.restructure (·.deleteLine axis i))
      (restructure_content hsound (c := .deleteLine axis i) fun _ => rfl)
      (restructure_committed hcommit _)
      (fun after hok => not_typing (edit_of_restructure hok)) rfl rfl
  | setActiveSheet name =>
    have hname : name ∈ file.book.names := List.contains_iff_mem.1 hends
    exact .of_changeFile hfile _ (showSheet_content hsound editor.options hname)
      (showSheet_committed hcommit hsound hname editor.options)
      (fun after hok => not_typing (edit_of_showSheet hok)) rfl rfl
  -- no other command ends the typing
  | _ => cases hends

/-- Each operation that ends the typing ends it first. -/
theorem endsTyping_perform (hselection : file.selection ≠ none) {operation : Operation}
    (hends : operation.endsTyping editor file = true) : editor.EndsTyping committed operation := by
  cases operation with
  | command command => exact endsTyping_command hfile hsound hcommit hselection hends
  | save => exact endsTyping_save hfile hsound hcommit
  | _ => cases hends

end Ends

/-- Until it is written to its cell, a text that is typed is kept. Every operation that ends the
typing leaves the editor that it leaves when the text was committed before, which writes the text to
its cell on the sheet that is shown and changes no other cell; and every operation that neither ends
the typing nor drops the text leaves it where it is typed. -/
theorem typed_text_is_kept (reached : Reachable editor) (hfile : editor.file = some file)
    {session : EditSession} (hedit : file.edit = some session) :
    (∃ committed,
      editor.perform (.command .commitEdit) =
        (.ok (.flag true), { editor with file := some committed }) ∧
      file.Commits session committed ∧
      ∀ operation : Operation, operation.endsTyping editor file = true →
        editor.EndsTyping committed operation) ∧
    ∀ operation : Operation, operation.endsTyping editor file = false →
      operation.dropsTyping editor = false →
      ∃ after, (editor.perform operation).2.file = some after ∧
        after.Types file.active session.cell := by
  have hsound := reached.sound hfile
  have htypes : file.Types file.active session.cell := ⟨rfl, by rw [hedit]; rfl⟩
  refine ⟨?_, fun operation hends hdrops => ?_⟩
  · obtain ⟨committed, hcommit, -⟩ := commit_content hsound
    have hflag : editor.perform (.command .commitEdit) =
        (.ok (.flag file.edit.isSome), { editor with file := some committed }) :=
      withFile_ok hfile (map_commitEdit hcommit)
    rw [hedit] at hflag
    refine ⟨committed, hflag, commits_of_commit hsound hedit hcommit, fun operation hends => ?_⟩
    -- there is a selection, since the text stands at its anchor
    have hselection : file.selection ≠ none := by
      intro hnone
      have hanchor := reached.anchored hfile session hedit
      rw [hnone] at hanchor
      cases hanchor
    exact endsTyping_perform hfile hsound hcommit hselection hends
  · cases hkeeps : operation.replacesFile with
    | true =>
      cases operation with
      | openFile path view =>
        -- a file that cannot be opened leaves the one before open
        rcases openFile_cases editor path view with ⟨_, _, _, _, -, hopened, -⟩ | ⟨_, hrefused⟩
        · rw [Operation.dropsTyping, hopened] at hdrops
          cases hdrops
        · rw [perform, hrefused]
          exact ⟨file, hfile, htypes⟩
      | close => cases hdrops
      | _ => cases hkeeps
    | false =>
      have hopen : ∀ path view, operation ≠ .openFile path view := by
        rintro path view rfl
        cases hkeeps
      have hclose : operation ≠ .close := by
        rintro rfl
        cases hkeeps
      obtain ⟨after, hafter, -⟩ := content_perform hfile hsound hopen hclose
      exact ⟨after, hafter,
        (follows_perform hfile hkeeps hafter).types hends hdrops _ _ htypes⟩

/-- A cell is selected and a text is begun in it. -/
def beginning : List Operation :=
  [.command (.pointerDown ⟨.first, .first⟩ false), .command (.typeChar '7')]

/-- Inserting a row writes the text before the row is shifted; clearing cells leaves it alone. -/
theorem typed_text_is_kept_in_new_file :
    ∃ file committed after, (newFile.after beginning).file = some file ∧
      file.edit = some ⟨⟨.first, .first⟩, "7"⟩ ∧
      file.Commits ⟨⟨.first, .first⟩, "7"⟩ committed ∧
      (newFile.after beginning).EndsTyping committed (.command (.insertLine .row .first)) ∧
      ((newFile.after beginning).perform (.command .delete)).2.file = some after ∧
      after.Types file.active ⟨.first, .first⟩ := by
  have hopen : (newFile.after beginning).file.isSome = true := by decide +kernel
  have hfile := (Option.some_get hopen).symm
  have hedit : ((newFile.after beginning).file.get hopen).edit =
      some ⟨⟨.first, .first⟩, "7"⟩ := by decide +kernel +revert
  obtain ⟨⟨committed, -, hcommits, hends⟩, hkeeps⟩ :=
    typed_text_is_kept (newFile_reachable.of_after beginning) hfile hedit
  obtain ⟨after, hafter, htypes⟩ := hkeeps (.command .delete) rfl rfl
  exact ⟨_, committed, after, hfile, hedit, hcommits,
    hends (.command (.insertLine .row .first)) rfl, hafter, htypes⟩

end Editor

end EnsembleDesk

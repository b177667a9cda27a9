import EnsembleDesk.Proofs.Session.Steps
/-!
# Operations that change a file in place

`Editor.performInPlace` carries out operations by the steps they are made of. What was changed
before a step was refused stays changed, and so an operation may be refused half way.

In a reachable editor none is (`Editor.Reachable.performInPlace_eq`): the lookups after the first
change of an operation find what they look up.

## Main results

* `Editor.Reachable.performInPlace_eq`: changing the file in place makes no difference;
* `Editor.refused_keeps_editor`: an operation that is refused leaves the editor as it was, up to
  what saving does before the file is written.
-/

namespace EnsembleDesk

/-- A file before the sheet that was visible is shown. -/
def OpenFile.loaded (path : String) (book : Workbook) (view : FileView) (options : GridOptions) :
    OpenFile :=
  let book := book.opened options
  let visible :=
    if book.names.contains view.visible then view.visible
    else book.names.head?.getD Workbook.defaultSheetName
  { path, book, active := visible, view, selection := none, dragging := false, edit := none,
    undo := .empty, restructured := false, scroll := ⟨0, 0⟩, client := ⟨0, 0⟩,
    extent := .start options.initialRows options.initialColumns options.growthThreshold,
    awaitsEcho := false }

/-- A file is made of a workbook by restoring the view of its visible sheet. -/
theorem OpenFile.ofBook_eq_restore (path : String) (book : Workbook) (view : FileView)
    (options : GridOptions) :
    OpenFile.ofBook path book view options =
      (loaded path book view options).restore options (loaded path book view options).active := rfl

namespace Editor

/-- Takes steps on the open file. Whether they are all taken or not, the file is the changed one. -/
def onFile (editor : Editor) (steps : Steps Answer) : Step :=
  match editor.file with
  | none => (.error .noFileOpen, editor)
  | some file =>
    let (result, file) := steps.run.run file
    (result, { editor with file := some file })

/-- Takes steps that tell nothing. -/
def stepsDone (steps : Steps Unit) : Steps Answer := do
  steps
  pure .done

/-- Takes steps and answers what they tell. -/
def stepsTell {α : Type} (answer : α → Answer) (steps : Steps α) : Steps Answer := do
  let a ← steps
  pure (answer a)

/-- Pastes the text on the clipboard, in place. The clipboard is read before anything is changed. -/
def pasteInPlace (editor : Editor) : Step :=
  match editor.file with
  | none => (.error .noFileOpen, editor)
  | some file =>
    match file.selection, editor.clipboard.read? with
    | none, _ => (.ok (.pasted none), editor)
    | some _, none =>
      (.ok (.pasted none), editor.notifyError "Could not read the clipboard.")
    | some selection, some text =>
      match Tabbed.read text.toList with
      | [] => (.ok (.pasted none), editor)
      | rows => editor.onFile (stepsTell (.pasted ∘ some) (Steps.pasteRows selection rows))

/-- Carries out what the user does, in place. -/
def performCommandInPlace (editor : Editor) : Command → Step
  | .pointerDown a extend => editor.onFile (stepsDone (Steps.pointerDown a extend))
  | .pointerMove a => editor.onFile (stepsTell .flag (Steps.turn (·.pointerMove a)))
  | .pointerUp => editor.onFile (stepsDone Steps.pointerUp)
  | .doubleClick a => editor.onFile (stepsDone (Steps.doubleClick a))
  | .arrow direction extend => editor.onFile (stepsDone (Steps.arrow direction extend))
  | .selectLine axis i => editor.onFile (stepsDone (Steps.selectLine axis i))
  | .typeChar c =>
    if isControl c then (.ok (.flag false), editor)
    else editor.onFile (stepsTell .flag (Steps.typeChar c))
  | .setEditText text => editor.onFile (stepsTell .flag (Steps.turn (·.setEditText text)))
  | .commitEdit => editor.onFile (stepsTell .flag Steps.commit)
  | .blur => editor.onFile (stepsTell .flag Steps.blur)
  | .delete => editor.onFile (stepsTell .count Steps.delete)
  | .copy => editor.copy
  | .paste => editor.pasteInPlace
  | .insertLine axis i => editor.onFile (stepsDone (Steps.restructure (·.insertLine axis i)))
  | .deleteLine axis i => editor.onFile (stepsDone (Steps.restructure (·.deleteLine axis i)))
  | .undo => editor.onFile (stepsTell .flag Steps.takeBack)
  | .scroll event =>
    editor.onFile (stepsTell .viewport (Steps.scrolled event editor.options.overscan))
  | .resize axis i size => editor.onFile (stepsDone (Steps.resize axis i size))
  | .setActiveSheet name => editor.onFile (stepsDone (Steps.showSheet editor.options name))

/-- Opens a file. It is made beside the one that is open, and takes its place at the end. -/
def openFileInPlace (editor : Editor) (path : String) (view : Option FileView) : Step :=
  match editor.readBook path with
  | .error error => (.error error, editor)
  | .ok book =>
    let file := OpenFile.loaded path book (view.getD {}) editor.options
    match (Steps.restore editor.options file.active).run.run file with
    | (.ok (), file) => (.ok .done, { editor with file := some file })
    | (.error error, _) => (.error error, editor)

/-- Saves the open file, in place: the typing has ended and the view is kept when it is written. -/
def saveInPlace (editor : Editor) : Step :=
  match editor.onFile (stepsTell .view (Steps.commit >>= fun _ => Steps.captureView)) with
  | (.error error, editor) => (.error error, editor)
  | (.ok answer, editor) =>
    match editor.file with
    | none => (.error .noFileOpen, editor)
    | some file =>
      match editor.store.write? file.path ((BookFormat.ofPath file.path).write file.book) with
      | none => (.error (.writeFailed file.path), editor)
      | some store =>
        (.ok answer, { editor with
          store
          file := some { file with undo := file.undo.markClean, restructured := false } })

/-- Carries out an operation, in place. -/
def performInPlace (editor : Editor) : Operation → Step
  | .command command => editor.performCommandInPlace command
  | .openFile path view => editor.openFileInPlace path view
  | .close => (.ok .done, { editor with file := none })
  | .save => editor.saveInPlace
  | .captureView => editor.onFile (stepsTell .view Steps.captureView)
  | .setClient size =>
    editor.onFile (stepsTell (.viewport ∘ some) (Steps.setClient size editor.options.overscan))
  | .write a value => editor.onFile (stepsDone (Steps.write a value))
  | .writeJson a value =>
    match CellValue.ofJson value with
    | .error error => (.error error, editor)
    | .ok value => editor.onFile (stepsDone (Steps.write a (some value)))

variable {editor : Editor} {file : OpenFile}

/-- Steps that are all taken do what the action does that gives the same file. -/
theorem onFile_eq_withFile {action : OpenFile → Except GridError (Answer × OpenFile)}
    {steps : Steps Answer} (h : ∀ file, editor.file = some file →
      Yields (action file) fun result => steps.Gives file result.1 result.2) :
    editor.onFile steps = editor.withFile action := by
  cases hfile : editor.file with
  | none => simp only [onFile, withFile, hfile]
  | some file =>
    obtain ⟨⟨answer, after⟩, hok, hgives⟩ := h file hfile
    simp only [onFile, withFile, hfile, hok]
    rw [hgives]

/-- A single step that cannot be refused. -/
theorem onFile_turn_eq {α : Type} (editor : Editor) (answer : α → Answer)
    (f : OpenFile → α × OpenFile) :
    editor.onFile (stepsTell answer (Steps.turn f)) =
      editor.withFile fun file => .ok (answer (f file).1, (f file).2) :=
  onFile_eq_withFile fun _ _ => .ok rfl

/-- An action that has no answer. -/
theorem onFile_stepsDone_eq {action : OpenFile → Except GridError OpenFile} {steps : Steps Unit}
    {P : OpenFile → OpenFile → Prop}
    (hyields : ∀ file, editor.file = some file → Yields (action file) (P file))
    (hgives : ∀ file after, editor.file = some file → action file = .ok after →
      steps.Gives file () after) :
    editor.onFile (stepsDone steps) = editor.changeFile action := by
  refine onFile_eq_withFile fun file hfile => ?_
  obtain ⟨after, hok, -⟩ := hyields file hfile
  refine ⟨(.done, after), ?_, (hgives file after hfile hok).bind rfl⟩
  rw [hok]
  rfl

/-- An action that tells something. -/
theorem onFile_stepsTell_eq {α : Type} {answer : α → Answer}
    {action : OpenFile → Except GridError (α × OpenFile)} {steps : Steps α}
    {P : OpenFile → α × OpenFile → Prop}
    (hyields : ∀ file, editor.file = some file → Yields (action file) (P file))
    (hgives : ∀ file a after, editor.file = some file → action file = .ok (a, after) →
      steps.Gives file a after) :
    editor.onFile (stepsTell answer steps) =
      editor.withFile fun file => (action file).map fun result => (answer result.1, result.2) := by
  refine onFile_eq_withFile fun file hfile => ?_
  obtain ⟨⟨a, after⟩, hok, -⟩ := hyields file hfile
  refine ⟨(answer a, after), ?_, (hgives file a after hfile hok).bind rfl⟩
  rw [hok]
  rfl

/-- Opening in place is opening. -/
theorem openFileInPlace_eq (editor : Editor) (path : String) (view : Option FileView) :
    editor.openFileInPlace path view = editor.openFile path view := by
  cases hbook : editor.readBook path with
  | error error =>
    rw [openFile_of_readBook_error hbook]
    simp only [openFileInPlace, hbook]
  | ok book =>
    obtain ⟨file, hopened, -⟩ := OpenFile.content_ofBook path book (view.getD {}) editor.options
    simp only [openFileInPlace, openFile, hbook, Except.ok_bind, hopened]
    rw [OpenFile.ofBook_eq_restore] at hopened
    rw [Steps.gives_restore hopened]

section

variable (hsound : ∀ file, editor.file = some file → file.content.Sound)

include hsound

/-- Pasting in place is pasting, whether the paste is refused or not. -/
theorem pasteInPlace_eq : editor.pasteInPlace = editor.paste := by
  cases hfile : editor.file with
  | none => simp only [pasteInPlace, paste, hfile]
  | some file =>
    simp only [pasteInPlace, paste, hfile]
    cases file.selection with
    | none => rfl
    | some selection =>
      cases editor.clipboard.read? with
      | none => rfl
      | some text =>
        cases hrows : Tabbed.read text.toList with
        | nil => simp only [hrows]
        | cons row rows =>
          simp only [hrows]
          exact onFile_stepsTell_eq
            (fun file hfile => OpenFile.pasteRows_content (hsound file hfile) _ _)
            fun file _ _ hfile hok => Steps.gives_pasteRows (hsound file hfile) hok

/-- Saving in place is saving, whether the file can be written or not. -/
theorem saveInPlace_eq : editor.saveInPlace = editor.save := by
  cases hfile : editor.file with
  | none => simp only [saveInPlace, save, onFile, hfile]
  | some file =>
    obtain ⟨committed, hcommit, hcommitted⟩ := OpenFile.commit_content (hsound file hfile)
    obtain ⟨captured, hcapture, -⟩ :=
      OpenFile.capture_content (hcommitted ▸ (hsound file hfile).applyAll file.commitChanges)
    have hgives : (stepsTell .view (Steps.commit >>= fun _ => Steps.captureView)).Gives file
        (.view captured.view) captured :=
      ((Steps.gives_commit hcommit).bind (Steps.gives_captureView hcapture)).bind rfl
    simp only [saveInPlace, save, onFile, hfile, hcommit, Except.ok_bind, hcapture]
    rw [Steps.Gives] at hgives
    -- what the steps lead to is what is written
    generalize (stepsTell .view (Steps.commit >>= fun _ => Steps.captureView)).run.run file = result
      at hgives ⊢
    subst hgives
    rfl

/-- A command in place is the command. -/
theorem performCommandInPlace_eq (command : Command) :
    editor.performCommandInPlace command = editor.performCommand command := by
  -- the steps of a command lead to its result, and on sound content all of them are taken
  cases command with
  | pointerDown a extend =>
    exact onFile_stepsDone_eq
      (fun file hfile => OpenFile.pointerDown_content (hsound file hfile) a extend)
      fun _ _ _ hok => Steps.gives_pointerDown hok
  | pointerMove a => exact onFile_turn_eq editor _ _
  | pointerUp =>
    exact onFile_stepsDone_eq
      (fun file hfile =>
        @OpenFile.capture_content { file with dragging := false } (hsound file hfile))
      fun _ _ _ hok => Steps.gives_pointerUp hok
  | doubleClick a =>
    exact onFile_stepsDone_eq (fun file hfile => OpenFile.doubleClick_content (hsound file hfile) a)
      fun _ _ _ hok => Steps.gives_doubleClick hok
  | arrow direction extend =>
    exact onFile_stepsDone_eq
      (fun file hfile => OpenFile.arrow_content (hsound file hfile) direction extend)
      fun _ _ _ hok => Steps.gives_commitThen hok
  | selectLine axis i =>
    exact onFile_stepsDone_eq
      (fun file hfile => OpenFile.selectLine_content (hsound file hfile) axis i)
      fun _ _ _ hok => Steps.gives_commitThen hok
  | typeChar c =>
    simp only [performCommandInPlace, performCommand]
    split
    · rfl
    · exact onFile_stepsTell_eq (fun file hfile => typeChar_yields (hsound file hfile) c)
        fun _ _ _ _ hok => Steps.gives_typeChar hok
  | setEditText text => exact onFile_turn_eq editor _ _
  | commitEdit =>
    exact onFile_stepsTell_eq (fun file hfile => OpenFile.commitEdit_content (hsound file hfile))
      fun _ _ _ _ hok => Steps.gives_commitEdit hok
  | blur =>
    exact onFile_stepsTell_eq
      (fun file hfile =>
        @OpenFile.commitEdit_content { file with dragging := false } (hsound file hfile))
      fun _ _ _ _ hok => Steps.gives_blur hok
  | delete =>
    exact onFile_stepsTell_eq (fun file hfile => OpenFile.delete_content (hsound file hfile))
      fun _ _ _ _ hok => Steps.gives_delete hok
  | copy => rfl
  | paste => exact pasteInPlace_eq hsound
  | insertLine axis i =>
    exact onFile_stepsDone_eq
      (fun file hfile =>
        OpenFile.restructure_content (hsound file hfile) (c := .insertLine axis i) fun _ => rfl)
      fun _ _ _ hok => Steps.gives_restructure hok
  | deleteLine axis i =>
    exact onFile_stepsDone_eq
      (fun file hfile =>
        OpenFile.restructure_content (hsound file hfile) (c := .deleteLine axis i) fun _ => rfl)
      fun _ _ _ hok => Steps.gives_restructure hok
  | undo =>
    exact onFile_stepsTell_eq (fun file hfile => OpenFile.takeBack_content (hsound file hfile))
      fun _ _ _ _ hok => Steps.gives_takeBack hok
  | scroll event =>
    exact onFile_stepsTell_eq
      (fun file hfile =>
        OpenFile.scrolled_content (hsound file hfile) event editor.options.overscan)
      fun _ _ _ _ hok => Steps.gives_scrolled hok
  | resize axis i size =>
    exact onFile_stepsDone_eq
      (fun file hfile => OpenFile.resize_content (hsound file hfile) axis i size)
      fun _ _ _ hok => Steps.gives_resize hok
  | setActiveSheet name =>
    cases hfile : editor.file with
    | none => simp only [performCommandInPlace, performCommand, onFile, changeFile, withFile, hfile]
    | some file =>
      by_cases hname : name ∈ file.book.names
      · refine onFile_stepsDone_eq (P := fun _ _ => True) (fun other hother => ?_)
          fun _ _ _ hok => Steps.gives_showSheet hok
        cases hfile.symm.trans hother
        exact (OpenFile.showSheet_content (hsound file hfile) editor.options hname).imp
          fun _ _ => trivial
      -- the one lookup that can fail comes before the first change
      · rw [performCommand_of_unknownSheet hfile hname]
        have hstops : (stepsDone (Steps.showSheet editor.options name)).Stops file
            (.unknownSheet name) file := (Steps.stops_showSheet editor.options hname).bind
        simp only [performCommandInPlace, onFile, hfile]
        rw [hstops]
        dsimp only
        rw [← hfile]

/-- An operation in place is the operation, whether it is refused or not. -/
theorem performInPlace_eq (operation : Operation) :
    editor.performInPlace operation = editor.perform operation := by
  -- on sound content no step is refused half way, so the file is the one after all of them
  cases operation with
  | command command => exact performCommandInPlace_eq hsound command
  | openFile path view => exact openFileInPlace_eq editor path view
  | close => rfl
  | save => exact saveInPlace_eq hsound
  | captureView =>
    refine onFile_eq_withFile fun file hfile => ?_
    obtain ⟨captured, hcapture, -⟩ := OpenFile.capture_content (hsound file hfile)
    rw [hcapture]
    exact .ok ((Steps.gives_captureView hcapture).bind rfl)
  | setClient size =>
    refine onFile_eq_withFile fun file hfile => ?_
    obtain ⟨viewport, hviewport, -⟩ :=
      @OpenFile.viewport_yields { file with client := size } (hsound file hfile)
        editor.options.overscan
    simp only [hviewport, Except.ok_bind]
    exact .ok ((Steps.gives_setClient hviewport).bind rfl)
  | write a value =>
    exact onFile_stepsDone_eq (fun file hfile => OpenFile.write_content (hsound file hfile) a value)
      fun _ _ _ hok => Steps.gives_write hok
  | writeJson a value =>
    simp only [performInPlace, perform]
    cases CellValue.ofJson value with
    | error error => rfl
    | ok value =>
      exact onFile_stepsDone_eq
        (fun file hfile => OpenFile.write_content (hsound file hfile) a (some value))
        fun _ _ _ hok => Steps.gives_write hok

end

/-- In a reachable editor it makes no difference whether operations change the file in place. -/
theorem Reachable.performInPlace_eq (reached : Reachable editor) (operation : Operation) :
    editor.performInPlace operation = editor.perform operation :=
  Editor.performInPlace_eq (fun _ hfile => reached.sound hfile) operation

/-! ### What a refused operation leaves behind -/

variable {operation : Operation} {error : GridError}

/-- An operation that is refused leaves the editor as it was, unless it saves an open file. -/
theorem Refuses.perform_eq (h : editor.Refuses operation error)
    (hsave : operation ≠ .save ∨ editor.file = none) :
    editor.perform operation = (.error error, editor) := by
  cases h with
  | closed hfile hreaches => exact perform_of_none hfile hreaches
  | unreadable hbook view => exact openFile_of_readBook_error hbook view
  | unsupported hvalue a => simp only [perform, hvalue]
  | unknownSheet hfile hname => exact performCommand_of_unknownSheet hfile hname
  | unwritable hfile hstore =>
    rcases hsave with hsave | hclosed
    · exact absurd rfl hsave
    · cases hclosed.symm.trans hfile

/-- What is saved before the file is written. -/
theorem perform_commitEdit {committed : OpenFile} (hfile : editor.file = some file)
    (hcommit : file.commit = .ok committed) :
    editor.perform (.command .commitEdit) =
      (.ok (.flag file.edit.isSome), { editor with file := some committed }) := by
  simp only [perform, performCommand, withFile, hfile, OpenFile.commitEdit, hcommit,
    Except.ok_bind, Except.map]

/-- An operation that keeps the view of the open file answers it. -/
theorem perform_captureView {captured : OpenFile} (hfile : editor.file = some file)
    (hcapture : file.capture = .ok captured) :
    editor.perform .captureView =
      (.ok (.view captured.view), { editor with file := some captured }) := by
  simp only [perform, withFile, hfile, hcapture, Except.map]

/-- Without a text on the clipboard, pasting at most tells the user. -/
theorem paste_of_unavailable (hclipboard : editor.clipboard.read? = none) :
    editor.paste.2 = editor ∨
      editor.paste.2 = editor.notifyError "Could not read the clipboard." := by
  cases hfile : editor.file with
  | none =>
    rw [paste_of_none hfile]
    exact .inl rfl
  | some file =>
    simp only [paste, hfile, hclipboard]
    split
    · exact .inl rfl
    · exact .inr rfl
    · rename_i hread
      cases hread

/-- An operation that is refused leaves the editor as it was, even if it changes the open file in
place. Saving a file that cannot be written is the one exception: it has ended the typing of a text
and kept the view of the sheet, and done nothing else. A paste without a text on the clipboard is
not refused, but leaves the open file as it was. -/
theorem refused_keeps_editor (reached : Reachable editor) :
    (∀ operation, editor.performInPlace operation = editor.perform operation) ∧
      (∀ operation error, (editor.perform operation).1 = .error error →
        (operation ≠ .save ∨ editor.file = none → (editor.perform operation).2 = editor) ∧
        ∀ file, operation = .save → editor.file = some file →
          error = .writeFailed file.path ∧
          (editor.perform .save).2 =
            ((editor.perform (.command .commitEdit)).2.perform .captureView).2 ∧
          ∃ committed saved,
            (editor.perform (.command .commitEdit)).2.file = some committed ∧
            (editor.perform .save).2.file = some saved ∧ saved.book = committed.book ∧
            saved.undo = committed.undo ∧
            (editor.perform .save).2.isDirty =
              (editor.perform (.command .commitEdit)).2.isDirty) ∧
      (editor.clipboard.read? = none →
        (editor.perform (.command .paste)).2.file = editor.file) := by
  refine ⟨reached.performInPlace_eq, fun operation error herror => ⟨fun hsave => ?_, ?_⟩,
    fun hclipboard => ?_⟩
  · rw [(reached.refused_iff.1 herror).perform_eq hsave]
  · rintro file rfl hfile
    cases reached.refused_iff.1 herror with
    | closed hclosed => cases hclosed.symm.trans hfile
    | unwritable hopen hstore =>
      cases hopen.symm.trans hfile
      obtain ⟨committed, captured, hcommit, hcapture, hrefused⟩ :=
        save_of_unwritable hfile (reached.sound hfile) hstore
      have hcommitted := perform_commitEdit hfile hcommit
      have hcaptured :=
        @perform_captureView { editor with file := some committed } _ _ rfl hcapture
      -- keeping the view changes neither the cells nor the undo log
      have hcontent : captured.content = committed.content := by
        obtain ⟨sheet, -, h⟩ := Except.bind_eq_ok_iff.1 hcapture
        cases h
        rfl
      rw [show editor.perform .save = _ from hrefused, hcommitted, hcaptured]
      refine ⟨rfl, rfl, committed, captured, rfl, rfl, congrArg Content.book hcontent,
        congrArg Content.undo hcontent, ?_⟩
      exact congrArg (fun content => content.restructured || !content.undo.isClean) hcontent
  · rcases paste_of_unavailable hclipboard with hpaste | hpaste
    · rw [perform, performCommand, hpaste]
    · rw [perform, performCommand, hpaste]
      rfl

/-- An editor with a change that was not saved and a text that is being typed, when files cannot be
written any more and the clipboard is empty. -/
def unsavedTyping : Editor :=
  { newFile.after [.write ⟨1, 1⟩ (some (.boolean true)), .command (.pointerDown ⟨0, 0⟩ false),
      .command (.typeChar 'x')] with
    store := { writable := false }, clipboard := {} }

/-- Saving it ends the typing and keeps the view; a sheet that does not exist, a value that no cell
can hold and an empty clipboard leave it as it is. -/
theorem refused_keeps_editor_unsavedTyping :
    unsavedTyping.Reachable ∧
      (unsavedTyping.perform .save).1 = .error (.writeFailed "plan.csv") ∧
      (unsavedTyping.perform .save).2 =
        ((unsavedTyping.perform (.command .commitEdit)).2.perform .captureView).2 ∧
      (unsavedTyping.perform (.command (.setActiveSheet "plan"))).1 =
        .error (.unknownSheet "plan") ∧
      (unsavedTyping.perform (.command (.setActiveSheet "plan"))).2 = unsavedTyping ∧
      (unsavedTyping.perform (.writeJson ⟨0, 0⟩ .null)).2 = unsavedTyping ∧
      (unsavedTyping.perform (.command .paste)).2.file = unsavedTyping.file := by
  have reached : unsavedTyping.Reachable := (newFile_reachable.of_after _).provide _ _
  have hknown : unsavedTyping.file.map (fun file => (file.path, file.book.names)) =
      some ("plan.csv", ["Sheet1"]) := by decide +kernel
  obtain ⟨file, hfile, hfacts⟩ := Option.map_eq_some_iff.1 hknown
  obtain ⟨hpath, hnames⟩ : file.path = "plan.csv" ∧ file.book.names = ["Sheet1"] := by
    simpa using hfacts
  have hsave : (unsavedTyping.perform .save).1 = .error (.writeFailed "plan.csv") :=
    reached.refused_iff.2 (hpath ▸ .unwritable hfile rfl)
  have hsheet : (unsavedTyping.perform (.command (.setActiveSheet "plan"))).1 =
      .error (.unknownSheet "plan") := by
    refine reached.refused_iff.2 (.unknownSheet hfile ?_)
    rw [hnames]
    decide
  obtain ⟨-, hrefused, hpaste⟩ := refused_keeps_editor reached
  obtain ⟨-, hsaved, -⟩ := (hrefused _ _ hsave).2 file rfl hfile
  exact ⟨reached, hsave, hsaved, hsheet, (hrefused _ _ hsheet).1 (.inl nofun),
    (hrefused (.writeJson ⟨0, 0⟩ .null) _ rfl).1 (.inl nofun), hpaste rfl⟩

end Editor

end EnsembleDesk

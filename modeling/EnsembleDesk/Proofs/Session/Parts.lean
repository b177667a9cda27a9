import Mathlib.Logic.Relation
import EnsembleDesk.Proofs.Session.Anchor
/-!
# What operations are made of

What happens to an open file is made of few kinds of changes. Most operations only write cells,
select, or keep how the sheet is looked at: these are the common changes (`OpenFile.Common`). Some
operations do one thing more that no other one does, and they do it last: their own change
(`OpenFile.Own`). `Editor.makes_perform` says so for every operation that neither opens nor closes a
file, whether it was refused or not.

What the changes keep is therefore kept by the operations (`OpenFile.Makes.keeps`), and an invariant
of open files takes one small step for each kind of change instead of one for each operation.
`Editor.keeps_through` carries it through a run of events.
-/

namespace EnsembleDesk

/-- Whether the operation may show another sheet or another file. -/
def Operation.leavesSheet : Operation → Bool
  | .command (.setActiveSheet _) => true
  | operation => operation.replacesFile

/-- An operation that stays on its sheet stays in its file. -/
theorem Operation.replacesFile_of_leavesSheet {operation : Operation}
    (h : operation.leavesSheet = false) : operation.replacesFile = false := by
  cases operation with
  | command command => rfl
  | _ => exact h

namespace OpenFile

/-- A change of an open file that is not one of a single operation. -/
inductive Common : OpenFile → OpenFile → Prop where
  /-- A cell of the sheet that is shown is written or cleared, and the write is recorded. -/
  | write {file : OpenFile} {sheet : Worksheet} (hsheet : file.sheet = .ok sheet) (a : Address)
    (value : Option CellValue) :
    Common file { file.updateSheet (·.put a value) with
      undo := file.undo.push ⟨file.active, a, sheet.value a, value⟩
      extent := file.extent.ensureCell a }
  /-- How the sheet that is shown is looked at is kept. -/
  | capture {file : OpenFile} {sheet : Worksheet} (hsheet : file.sheet = .ok sheet) :
    Common file { file with
      view := { file.view.put (file.currentView sheet) with visible := file.active } }
  /-- Something is selected or typed, or the window gets a size. -/
  | attend (file : OpenFile) (selection : Option Selection) (dragging : Bool)
    (edit : Option EditSession) (client : Pair Binary64) :
    Common file { file with selection, dragging, edit, client }
  /-- A cell comes within the extent. -/
  | reach (file : OpenFile) (a : Address) :
    Common file { file with extent := file.extent.ensureCell a }
  /-- A rectangle that was pasted comes within the used range, and its last cell within the
  extent. -/
  | cover (file : OpenFile) (anchor : Address) {rows columns : Int} (hrows : 0 ≤ rows)
    (hcolumns : 0 ≤ columns) :
    Common file { file.updateSheet (·.cover (.spanning anchor (anchor.offset rows columns))) with
      extent := file.extent.ensureCell (anchor.offset rows columns) }

/-- The change of an open file that only the given operation makes. -/
inductive Own (options : GridOptions) : Operation → OpenFile → OpenFile → Prop where
  /-- A line is inserted; what was recorded can no longer be taken back. -/
  | insertLine (file : OpenFile) (axis : Axis) (i : Index) :
    Own options (.command (.insertLine axis i)) file
      { file.updateSheet (·.insertLine axis i) with undo := file.undo.clear, restructured := true }
  /-- A line is deleted; what was recorded can no longer be taken back. -/
  | deleteLine (file : OpenFile) (axis : Axis) (i : Index) :
    Own options (.command (.deleteLine axis i)) file
      { file.updateSheet (·.deleteLine axis i) with undo := file.undo.clear, restructured := true }
  /-- A line gets a size. -/
  | resize (file : OpenFile) (axis : Axis) (i : Index) (size : Binary64) :
    Own options (.command (.resize axis i size)) file
      { file.updateSheet (·.mapSizes axis (·.set i (Sizes.atLeastOne size))) with
        restructured := true }
  /-- The last recorded write is taken back. -/
  | takeBack {file : OpenFile} {edit : CellEdit} {edits : List CellEdit}
    (h : file.undo.edits = edit :: edits) :
    Own options (.command .undo) file
      { file with undo := { file.undo with edits }, book := file.book.takeBack edit }
  /-- The echo of a position that was restored is passed over. -/
  | echo {file : OpenFile} (event : ScrollEvent Binary64) (h : file.awaitsEcho = true) :
    Own options (.command (.scroll event)) file { file with awaitsEcho := false }
  /-- The file is scrolled. -/
  | scroll {file : OpenFile} (event : ScrollEvent Binary64) (h : file.awaitsEcho = false) :
    Own options (.command (.scroll event)) file
      { file with scroll := event.scroll, extent := file.extent.afterScroll event }
  /-- A sheet is shown as it was looked at before. -/
  | restore {file after : OpenFile} {name : String} (h : file.restore options name = .ok after) :
    Own options (.command (.setActiveSheet name)) file after
  /-- The file is saved. -/
  | save (file : OpenFile) :
    Own options .save file { file with undo := file.undo.markClean, restructured := false }

/-- Common changes lead from one file to another. -/
abbrev Becomes : OpenFile → OpenFile → Prop := Relation.ReflTransGen Common

/-- What an operation makes of a file: common changes, and after them its own change or none. -/
def Makes (options : GridOptions) (operation : Operation) (file after : OpenFile) : Prop :=
  ∃ before, file.Becomes before ∧ Relation.ReflGen (Own options operation) before after

variable {file after : OpenFile} {options : GridOptions} {operation : Operation}

/-- Writing a cell is a common change. -/
theorem Common.of_write {a : Address} {value : Option CellValue}
    (h : file.write a value = .ok after) : Common file after := by
  obtain ⟨sheet, hsheet, h⟩ := Except.bind_eq_ok_iff.1 h
  cases h
  exact .write hsheet a value

/-- Keeping how the sheet is looked at is a common change. -/
theorem Common.of_capture (h : file.capture = .ok after) : Common file after := by
  obtain ⟨sheet, hsheet, h⟩ := Except.bind_eq_ok_iff.1 h
  cases h
  exact .capture hsheet

/-- What every common change keeps is kept by all of them. -/
theorem Becomes.keeps {P : OpenFile → Prop} (h : file.Becomes after)
    (hcommon : ∀ file after, Common file after → P file → P after) (hfile : P file) : P after := by
  induction h with
  | refl => exact hfile
  | tail _ hstep ih => exact hcommon _ _ hstep ih

namespace Makes

/-- Common changes alone are something that any operation may make. -/
theorem of_becomes (h : file.Becomes after) :
    file.Makes options operation after := ⟨after, h, .refl⟩

theorem refl (file : OpenFile) : file.Makes options operation file := of_becomes .refl

/-- One common change is something that any operation may make. -/
theorem of_common (h : Common file after) : file.Makes options operation after :=
  of_becomes (.single h)

/-- An operation may make common changes and then its own one. -/
theorem of_own {before : OpenFile} (h : file.Becomes before)
    (hown : Own options operation before after) : file.Makes options operation after :=
  ⟨before, h, .single hown⟩

/-- What the common changes and its own change keep is kept by an operation. -/
theorem keeps {P : OpenFile → Prop} (h : file.Makes options operation after)
    (hcommon : ∀ file after, Common file after → P file → P after)
    (hown : ∀ file after, Own options operation file after → P file → P after)
    (hfile : P file) : P after := by
  obtain ⟨before, hbecomes, hlast⟩ := h
  have hbefore := hbecomes.keeps hcommon hfile
  cases hlast with
  | refl => exact hbefore
  | single hlast => exact hown before after hlast hbefore

end Makes

/-! ### The parts of operations -/

namespace Becomes

/-- Several cells are written by common changes, one for each. -/
theorem of_writeAll {cells : List (Address × Option CellValue)}
    (h : file.writeAll cells = .ok after) : file.Becomes after :=
  Except.foldlM_keeps (P := file.Becomes)
    (fun _ _ _ hbecomes _ hnext => hbecomes.tail (.of_write hnext)) .refl h

/-- A file in which no text is typed any more. -/
theorem endTyping (file : OpenFile) : file.Becomes { file with edit := none } :=
  .single (.attend file file.selection file.dragging none file.client)

/-- A typed text is written to its cell by common changes. -/
theorem of_commit (h : file.commit = .ok after) : file.Becomes after := by
  rw [commit] at h
  split at h
  · cases h
    exact .refl
  · exact (endTyping file).tail (.of_write h)

/-- A file after the typing of a text has ended and something was selected. -/
theorem of_commit_attend {committed : OpenFile} (h : file.commit = .ok committed)
    (selection : Option Selection) (dragging : Bool) (edit : Option EditSession) :
    file.Becomes { committed with selection, dragging, edit } :=
  (of_commit h).tail (.attend committed selection dragging edit committed.client)

/-- A press of the pointer makes common changes only. -/
theorem of_pointerDown {a : Address} {extend : Bool}
    (h : file.pointerDown a extend = .ok after) : file.Becomes after := by
  rw [pointerDown] at h
  split at h
  · obtain ⟨committed, hcommitted, h⟩ := Except.bind_eq_ok_iff.1 h
    cases h
    exact (of_commit hcommitted).tail (.attend committed _ true committed.edit committed.client)
  · cases h
    exact .single (.attend file _ true file.edit file.client)

/-- Dragging makes common changes only. -/
theorem pointerMove (file : OpenFile) (a : Address) : file.Becomes (file.pointerMove a).2 := by
  rw [OpenFile.pointerMove]
  split
  · split
    · exact .single (.attend file _ file.dragging file.edit file.client)
    · exact .refl
  · exact .refl

/-- The release of the pointer makes common changes only. -/
theorem of_pointerUp (h : file.pointerUp = .ok after) : file.Becomes after :=
  .head (.attend file file.selection false file.edit file.client) (.single (.of_capture h))

/-- Two presses of the pointer make common changes only. -/
theorem of_doubleClick {a : Address} (h : file.doubleClick a = .ok after) :
    file.Becomes after := by
  obtain ⟨committed, hcommitted, h⟩ := Except.bind_eq_ok_iff.1 h
  obtain ⟨sheet, -, h⟩ := Except.bind_eq_ok_iff.1 h
  cases h
  exact of_commit_attend hcommitted _ _ _

/-- An arrow key makes common changes only. -/
theorem of_arrow {direction : Direction} {extend : Bool}
    (h : file.arrow direction extend = .ok after) : file.Becomes after := by
  obtain ⟨committed, hcommitted, h⟩ := Except.bind_eq_ok_iff.1 h
  cases h
  have hselected := of_commit_attend hcommitted
    (some (arrowed committed.selection direction extend)) committed.dragging committed.edit
  -- an unbounded selection has no corner to be reached
  split
  · exact hselected
  · exact hselected.tail (.reach _ _)

/-- The selection of a whole line makes common changes only. -/
theorem of_selectLine {axis : Axis} {i : Index}
    (h : file.selectLine axis i = .ok after) : file.Becomes after := by
  obtain ⟨committed, hcommitted, h⟩ := Except.bind_eq_ok_iff.1 h
  cases h
  exact of_commit_attend hcommitted _ _ _

/-- A typed character makes common changes only. -/
theorem of_typeChar {c : Char} {used : Bool} (h : file.typeChar c = .ok (used, after)) :
    file.Becomes after := by
  rw [typeChar] at h
  split at h
  · cases h
    exact .single (.attend file file.selection file.dragging _ file.client)
  · cases h
    exact .refl
  · -- the cell is emptied before the text is begun
    obtain ⟨written, hwritten, h⟩ := Except.bind_eq_ok_iff.1 h
    cases h
    exact .tail (.single (.of_write hwritten))
      (.attend written written.selection written.dragging _ written.client)

/-- Another text in the place of the typed one is a common change. -/
theorem setEditText (file : OpenFile) (text : String) :
    file.Becomes (file.setEditText text).2 := by
  rw [OpenFile.setEditText]
  split
  · exact .single (.attend file file.selection file.dragging _ file.client)
  · exact .refl

/-- A typed text is confirmed by common changes only. -/
theorem of_commitEdit {ended : Bool} (h : file.commitEdit = .ok (ended, after)) :
    file.Becomes after := by
  obtain ⟨committed, hcommitted, h⟩ := Except.bind_eq_ok_iff.1 h
  cases h
  exact of_commit hcommitted

/-- Leaving the grid makes common changes only. -/
theorem of_blur {ended : Bool} (h : file.blur = .ok (ended, after)) : file.Becomes after :=
  .head (.attend file file.selection false file.edit file.client) (of_commitEdit h)

/-- The selection is cleared by common changes only. -/
theorem of_delete {n : Nat} (h : file.delete = .ok (n, after)) : file.Becomes after := by
  rw [delete] at h
  split at h
  · cases h
    exact .refl
  · obtain ⟨selected, -, h⟩ := Except.bind_eq_ok_iff.1 h
    cases selected with
    | none =>
      cases h
      exact .refl
    | some range =>
      obtain ⟨sheet, -, h⟩ := Except.bind_eq_ok_iff.1 h
      obtain ⟨cleared, hcleared, h⟩ := Except.bind_eq_ok_iff.1 h
      cases h
      exact of_writeAll hcleared

/-- Rows are pasted by common changes only. -/
theorem of_pasteRows {selection : Selection} {rows : List (List (List Char))} (hrows : rows ≠ [])
    {range : CellRange} (h : file.pasteRows selection rows = .ok (range, after)) :
    file.Becomes after := by
  obtain ⟨committed, hcommitted, h⟩ := Except.bind_eq_ok_iff.1 h
  obtain ⟨written, hwritten, h⟩ := Except.bind_eq_ok_iff.1 h
  cases h
  -- at least one row was pasted, and at least one column
  have hlength : 0 ≤ (rows.length : Int) - 1 := by
    have := List.length_pos_iff.2 hrows
    omega
  have hwidth : 0 ≤ ((max (Tabbed.width rows) 1 : Nat) : Int) - 1 := by
    have := Nat.le_max_right (Tabbed.width rows) 1
    omega
  have hbecomes : file.Becomes written := (of_commit hcommitted).trans (of_writeAll hwritten)
  have hcovered := hbecomes.tail (.cover written selection.range.start hlength hwidth)
  exact hcovered.tail (.attend _ _ written.dragging written.edit written.client)

/-- What comes before another sheet is shown: the typed text is written, the view of the sheet that
is left is kept, and nothing is selected any more. -/
theorem before_showSheet {options : GridOptions} {name : String}
    (h : file.showSheet options name = .ok after) :
    ∃ before, file.Becomes before ∧ before.restore options name = .ok after := by
  obtain ⟨sheet, -, h⟩ := Except.bind_eq_ok_iff.1 h
  obtain ⟨committed, hcommitted, h⟩ := Except.bind_eq_ok_iff.1 h
  obtain ⟨captured, hcaptured, h⟩ := Except.bind_eq_ok_iff.1 h
  have hkept : file.Becomes captured := (of_commit hcommitted).tail (.of_capture hcaptured)
  exact ⟨_, hkept.tail (.attend captured none captured.dragging captured.edit captured.client), h⟩

end Becomes

namespace Makes

/-- Inserting and deleting lines is a change of its own, after the typed text was written. -/
theorem of_restructure {change : Worksheet → Worksheet}
    (hown : ∀ file : OpenFile, Own options operation file
      { file.updateSheet change with undo := file.undo.clear, restructured := true })
    (h : file.restructure change = .ok after) : file.Makes options operation after := by
  obtain ⟨committed, hcommitted, h⟩ := Except.bind_eq_ok_iff.1 h
  obtain ⟨sheet, -, h⟩ := Except.bind_eq_ok_iff.1 h
  cases h
  exact of_own (.of_commit hcommitted) (hown committed)

/-- Taking a write back is a change of its own. -/
theorem of_takeBack {undone : Bool} (h : file.takeBack = .ok (undone, after)) :
    file.Makes options (.command .undo) after := by
  rw [takeBack, UndoLog.pop] at h
  cases hedits : file.undo.edits with
  | nil =>
    simp only [hedits] at h
    cases h
    exact of_becomes (.endTyping file)
  | cons edit edits =>
    simp only [hedits] at h
    obtain ⟨sheet, -, h⟩ := Except.bind_eq_ok_iff.1 h
    cases h
    -- the text that was being typed is dropped first
    have hdropped : ({ file with edit := none } : OpenFile).undo.edits = edit :: edits := hedits
    exact of_own (.endTyping file) (.takeBack hdropped)

/-- Scrolling is a change of its own, or the event is passed over. -/
theorem of_scrolled {event : ScrollEvent Binary64} {overscan : Index}
    {viewport : Option (Viewport Binary64)}
    (h : file.scrolled event overscan = .ok (viewport, after)) :
    file.Makes options (.command (.scroll event)) after := by
  have hclient : file.Becomes { file with client := event.client } :=
    .single (.attend file file.selection file.dragging file.edit event.client)
  rw [scrolled] at h
  split at h
  · rename_i hecho
    cases h
    exact of_own hclient (.echo event hecho)
  · rename_i hecho
    obtain ⟨shown, -, h⟩ := Except.bind_eq_ok_iff.1 h
    cases h
    exact of_own hclient (.scroll event (Bool.not_eq_true _ ▸ hecho))

/-- Setting the size of a line is a change of its own. -/
theorem of_resize {axis : Axis} {i : Index} {size : Binary64}
    (h : file.resize axis i size = .ok after) :
    file.Makes options (.command (.resize axis i size)) after := by
  obtain ⟨sheet, -, h⟩ := Except.bind_eq_ok_iff.1 h
  cases h
  exact of_own .refl (.resize file axis i size)

/-- Showing another sheet is a change of its own, after the typed text was written. -/
theorem of_showSheet {name : String} (h : file.showSheet options name = .ok after) :
    file.Makes options (.command (.setActiveSheet name)) after := by
  obtain ⟨before, hbecomes, hrestore⟩ := Becomes.before_showSheet h
  exact of_own hbecomes (.restore hrestore)

end Makes

end OpenFile

/-! ### Operations -/

namespace Editor

open OpenFile

variable {editor : Editor} {file after : OpenFile}

section

variable (hfile : editor.file = some file)

include hfile

/-- What saving makes of the open file. -/
theorem makes_save (hafter : editor.save.2.file = some after) :
    file.Makes editor.options .save after := by
  simp only [save, hfile] at hafter
  split at hafter
  · cases hfile.symm.trans hafter
    exact .refl file
  · rename_i captured hcaptured
    obtain ⟨committed, hcommitted, hcapture⟩ := Except.bind_eq_ok_iff.1 hcaptured
    have hbecomes := (Becomes.of_commit hcommitted).tail (.of_capture hcapture)
    -- a file that cannot be written keeps what was done before it was to be written
    split at hafter
    · cases hafter
      exact .of_becomes hbecomes
    · cases hafter
      exact .of_own hbecomes (.save captured)

/-- What pasting makes of the open file, with or without something on the clipboard. -/
theorem makes_paste (hafter : editor.paste.2.file = some after) :
    file.Makes editor.options (.command .paste) after := by
  have hkept : editor.file = some after → file.Makes editor.options (.command .paste) after :=
    fun hafter => Option.some.inj (hfile.symm.trans hafter) ▸ .refl file
  simp only [paste, hfile] at hafter
  split at hafter
  · exact hkept hafter
  · exact hkept hafter
  · split at hafter
    · exact hkept hafter
    · rename_i rows hrows
      exact withFile_map_keeps (f := fun range => .pasted (some range)) hfile (.refl file)
        (fun _ _ hok => .of_becomes (.of_pasteRows (by simpa using hrows) hok)) hafter

/-- What a command makes of the open file: one case for each command. -/
theorem makes_command {command : Command}
    (hafter : (editor.performCommand command).2.file = some after) :
    file.Makes editor.options (.command command) after := by
  -- taking back, scrolling, resizing, moving lines and changing sheets are changes of their own;
  -- every other command makes common changes only
  cases command with
  | pointerDown a extend =>
    exact changeFile_keeps hfile (.refl file) (fun _ hok => .of_becomes (.of_pointerDown hok))
      hafter
  | pointerMove a =>
    refine withFile_keeps hfile (.refl file) (fun _ _ hok => ?_) hafter
    cases hok
    exact .of_becomes (.pointerMove file a)
  | pointerUp =>
    exact changeFile_keeps hfile (.refl file) (fun _ hok => .of_becomes (.of_pointerUp hok)) hafter
  | doubleClick a =>
    exact changeFile_keeps hfile (.refl file) (fun _ hok => .of_becomes (.of_doubleClick hok))
      hafter
  | arrow direction extend =>
    exact changeFile_keeps hfile (.refl file) (fun _ hok => .of_becomes (.of_arrow hok)) hafter
  | selectLine axis i =>
    exact changeFile_keeps hfile (.refl file) (fun _ hok => .of_becomes (.of_selectLine hok)) hafter
  | typeChar c =>
    simp only [performCommand] at hafter
    split at hafter
    · cases hfile.symm.trans hafter
      exact .refl file
    · exact withFile_map_keeps hfile (.refl file)
        (fun _ _ hok => .of_becomes (.of_typeChar hok)) hafter
  | setEditText text =>
    refine withFile_keeps hfile (.refl file) (fun _ _ hok => ?_) hafter
    cases hok
    exact .of_becomes (.setEditText file text)
  | commitEdit =>
    exact withFile_map_keeps hfile (.refl file)
      (fun _ _ hok => .of_becomes (.of_commitEdit hok)) hafter
  | blur =>
    exact withFile_map_keeps hfile (.refl file) (fun _ _ hok => .of_becomes (.of_blur hok)) hafter
  | delete =>
    exact withFile_map_keeps hfile (.refl file) (fun _ _ hok => .of_becomes (.of_delete hok)) hafter
  | copy =>
    cases ((file_copy editor).trans hfile).symm.trans hafter
    exact .refl file
  | paste => exact makes_paste hfile hafter
  | insertLine axis i =>
    exact changeFile_keeps hfile (.refl file)
      (fun _ hok => .of_restructure (fun file => .insertLine file axis i) hok) hafter
  | deleteLine axis i =>
    exact changeFile_keeps hfile (.refl file)
      (fun _ hok => .of_restructure (fun file => .deleteLine file axis i) hok) hafter
  | undo => exact withFile_map_keeps hfile (.refl file) (fun _ _ hok => .of_takeBack hok) hafter
  | scroll event =>
    exact withFile_map_keeps hfile (.refl file) (fun _ _ hok => .of_scrolled hok) hafter
  | resize axis i size =>
    exact changeFile_keeps hfile (.refl file) (fun _ hok => .of_resize hok) hafter
  | setActiveSheet name =>
    exact changeFile_keeps hfile (.refl file) (fun _ hok => .of_showSheet hok) hafter

/-- An operation that neither opens nor closes a file makes common changes, and after them its own
change or none. -/
theorem makes_perform {operation : Operation} (hkeeps : operation.replacesFile = false)
    (hafter : (editor.perform operation).2.file = some after) :
    file.Makes editor.options operation after := by
  cases operation with
  | command command => exact makes_command hfile hafter
  | openFile path view => cases hkeeps
  | close => cases hkeeps
  | save => exact makes_save hfile hafter
  | captureView =>
    refine withFile_keeps hfile (.refl file) (fun _ _ hok => ?_) hafter
    obtain ⟨captured, hcaptured, heq⟩ := Except.map_eq_ok_iff.1 hok
    cases heq
    exact .of_common (.of_capture hcaptured)
  | setClient size =>
    refine withFile_keeps hfile (.refl file) (fun _ _ hok => ?_) hafter
    obtain ⟨viewport, -, hok⟩ := Except.bind_eq_ok_iff.1 hok
    cases hok
    exact .of_common (.attend file file.selection file.dragging file.edit size)
  | write a value =>
    exact changeFile_keeps hfile (.refl file) (fun _ hok => .of_common (.of_write hok)) hafter
  | writeJson a value =>
    simp only [perform] at hafter
    split at hafter
    · cases hfile.symm.trans hafter
      exact .refl file
    · exact changeFile_keeps hfile (.refl file) (fun _ hok => .of_common (.of_write hok)) hafter

end

/-- What the common changes keep, and the own changes of the operations among some events, holds of
the open file after them if it held before. -/
theorem keeps_through {P : OpenFile → Prop} (reached : Reachable editor)
    (hfile : editor.file = some file) (h : P file) {events : List Event}
    (hkeeps : ∀ operation, .perform operation ∈ events → operation.replacesFile = false)
    (hcommon : ∀ file after, Common file after → P file → P after)
    (hown : ∀ options operation file after, .perform operation ∈ events →
      Own options operation file after → P file → P after) :
    ∃ after, (editor.through events).file = some after ∧ P after := by
  induction events generalizing editor file with
  | nil => exact ⟨file, hfile, h⟩
  | cons event events ih =>
    obtain ⟨next, hnext, -⟩ := content_on hfile (reached.sound hfile) event fun operation hevent =>
      hkeeps operation (hevent ▸ List.mem_cons_self)
    have hholds : P next := by
      cases event with
      | perform operation =>
        have hmakes := makes_perform hfile (hkeeps operation List.mem_cons_self) hnext
        exact hmakes.keeps hcommon
          (fun file after => hown _ operation file after List.mem_cons_self) h
      -- the world around the editor is another one, and the file is the same
      | provide store clipboard =>
        cases hfile.symm.trans hnext
        exact h
    exact ih (reached.through [event]) hnext hholds
      (fun operation hmem => hkeeps operation (List.mem_cons_of_mem _ hmem))
      fun options operation file after hmem =>
        hown options operation file after (List.mem_cons_of_mem _ hmem)

/-- An operation that may show another sheet or another file restores the view of a sheet, unless it
is refused or closes the file. -/
theorem exists_restore_of_leavesSheet {operation : Operation}
    (hleaves : operation.leavesSheet = true) (hclose : operation ≠ .close)
    (hok : (editor.perform operation).1.isOk = true) :
    ∃ before name file, (editor.perform operation).2.file = some file ∧
      OpenFile.restore before editor.options name = .ok file := by
  cases operation with
  | openFile path view =>
    simp only [perform, openFile] at hok ⊢
    split
    · rename_i opened hopened
      obtain ⟨book, -, hopened⟩ := Except.bind_eq_ok_iff.1 hopened
      exact ⟨_, _, opened, rfl, hopened⟩
    · rename_i hrefused
      rw [hrefused] at hok
      cases hok
  | close => exact absurd rfl hclose
  | command command =>
    cases command with
    | setActiveSheet name =>
      simp only [perform, performCommand, changeFile, withFile] at hok ⊢
      cases hfile : editor.file with
      | none =>
        rw [hfile] at hok
        cases hok
      | some current =>
        cases hshown : current.showSheet editor.options name with
        | error error =>
          simp only [hfile, hshown] at hok
          cases hok
        | ok file =>
          -- the sheet that is left is put in order first, and then the other one is restored
          obtain ⟨before, -, hrestore⟩ := OpenFile.Becomes.before_showSheet hshown
          exact ⟨before, name, file, by simp only [hshown, Except.map], hrestore⟩
    | _ => cases hleaves
  | _ => cases hleaves

end Editor

end EnsembleDesk

import EnsembleDesk.Proofs.Session.Opening
/-!
# The typed text and the anchor of the selection

While a text is being typed, its cell is the anchor of the selection (`OpenFile.Anchored`). The
selection may be extended then, but a press on another cell, an arrow key or a whole line ends the
typing before the selection moves. `Operation.endsTyping` lists the operations that do, and
`Operation.dropsTyping` the few that drop the text instead; every other operation leaves the text in
its cell. `Editor.follows_perform` is the one case analysis that all of this comes from.

What holds of every file that is opened, and is kept by every operation that neither opens nor
closes a file, holds of the open file of every reachable editor: `Editor.Reachable.file_induction`.

## Main results

* `Editor.follows_perform`: what an operation does to the typed text;
* `Editor.Reachable.anchored`: in a reachable editor the typed text stands at the anchor.
-/

namespace EnsembleDesk

namespace Operation

/-- Whether an operation ends the typing of a text. -/
def endsTyping (editor : Editor) (file : OpenFile) : Operation → Bool
  | .command (.pointerDown a _) => file.editsOtherThan a
  | .command (.doubleClick _) => true
  | .command (.arrow _ _) => true
  | .command (.selectLine _ _) => true
  | .command .commitEdit => true
  | .command .blur => true
  | .command .paste =>
    (editor.clipboard.read?.map fun text => Tabbed.read text.toList).any (!·.isEmpty)
  | .command (.insertLine _ _) => true
  | .command (.deleteLine _ _) => true
  | .command (.setActiveSheet name) => file.book.names.contains name
  | .save => true
  | _ => false

/-- Whether an operation drops the text that is being typed. -/
def dropsTyping (editor : Editor) : Operation → Bool
  | .command .undo => true
  | .close => true
  | .openFile path view => (editor.openFile path view).1.isOk
  | _ => false

end Operation

namespace OpenFile

variable {file after committed : OpenFile}

/-- The same sheet is shown, the selection has the same anchor, and a text is being typed into the
same cell, if there is one. -/
structure SameFocus (file after : OpenFile) : Prop where
  /-- The same sheet is shown. -/
  active : after.active = file.active
  /-- The selection has the same anchor. -/
  anchor : after.selection.map Selection.anchor = file.selection.map Selection.anchor
  /-- The cell that is typed into is the same. -/
  cell : after.edit.map EditSession.cell = file.edit.map EditSession.cell

namespace SameFocus

theorem refl (file : OpenFile) : file.SameFocus file := ⟨rfl, rfl, rfl⟩

theorem trans {first second third : OpenFile} (h : first.SameFocus second)
    (h' : second.SameFocus third) : first.SameFocus third :=
  ⟨h'.active.trans h.active, h'.anchor.trans h.anchor, h'.cell.trans h.cell⟩

/-- No typing begins without a change of focus. -/
theorem edit_eq_none (h : file.SameFocus after) (hedit : file.edit = none) : after.edit = none := by
  have hcell := h.cell
  rw [hedit] at hcell
  exact Option.map_eq_none_iff.1 hcell

/-- Writing a cell leaves the focus where it is. -/
theorem of_write {a : Address} {value : Option CellValue} (h : file.write a value = .ok after) :
    file.SameFocus after := by
  obtain ⟨sheet, -, h⟩ := Except.bind_eq_ok_iff.1 h
  cases h
  exact ⟨rfl, rfl, rfl⟩

/-- Writing several cells leaves the focus where it is. -/
theorem of_writeAll {cells : List (Address × Option CellValue)}
    (h : file.writeAll cells = .ok after) : file.SameFocus after :=
  Except.foldlM_keeps (P := file.SameFocus)
    (fun _ _ _ hfocus _ hnext => hfocus.trans (.of_write hnext)) (.refl file) h

/-- Keeping how the sheet is looked at leaves the focus where it is. -/
theorem of_capture (h : file.capture = .ok after) : file.SameFocus after := by
  obtain ⟨sheet, -, h⟩ := Except.bind_eq_ok_iff.1 h
  cases h
  exact ⟨rfl, rfl, rfl⟩

/-- When the typing of a text ends, only the text is gone. -/
theorem of_commit (h : file.commit = .ok committed) :
    { file with edit := none }.SameFocus committed := by
  rw [commit] at h
  split at h
  · rename_i hedit
    cases h
    exact ⟨rfl, rfl, congrArg _ hedit⟩
  · exact of_write h

/-- Moving the pointer moves the corner of the selection alone. -/
theorem pointerMove (file : OpenFile) (a : Address) : file.SameFocus (file.pointerMove a).2 := by
  rw [OpenFile.pointerMove]
  split
  · rename_i selection hselection
    split
    · refine ⟨rfl, ?_, rfl⟩
      rw [hselection]
      rfl
    · exact .refl file
  · exact .refl file

/-- A character that is typed into a text leaves the text in its cell. -/
theorem of_typeChar {session : EditSession} (hedit : file.edit = some session) {c : Char}
    {used : Bool} (h : file.typeChar c = .ok (used, after)) : file.SameFocus after := by
  rw [OpenFile.typeChar, hedit] at h
  cases h
  refine ⟨rfl, rfl, ?_⟩
  rw [hedit]
  rfl

/-- A changed text is typed into the same cell. -/
theorem setEditText (file : OpenFile) (text : String) :
    file.SameFocus (file.setEditText text).2 := by
  rw [OpenFile.setEditText]
  split
  · rename_i session hedit
    refine ⟨rfl, rfl, ?_⟩
    rw [hedit]
    rfl
  · exact .refl file

/-- Clearing the selection leaves the focus where it is. -/
theorem of_delete {n : Nat} (h : file.delete = .ok (n, after)) : file.SameFocus after := by
  rw [delete] at h
  split at h
  · cases h
    exact .refl file
  · obtain ⟨selected, -, h⟩ := Except.bind_eq_ok_iff.1 h
    cases selected with
    | none =>
      cases h
      exact .refl file
    | some range =>
      obtain ⟨sheet, -, h⟩ := Except.bind_eq_ok_iff.1 h
      obtain ⟨cleared, hcleared, h⟩ := Except.bind_eq_ok_iff.1 h
      cases h
      exact of_writeAll hcleared

/-- Scrolling leaves the focus where it is. -/
theorem of_scrolled {event : ScrollEvent Binary64} {overscan : Index}
    {viewport : Option (Viewport Binary64)}
    (h : file.scrolled event overscan = .ok (viewport, after)) : file.SameFocus after := by
  rw [scrolled] at h
  split at h
  · cases h
    exact ⟨rfl, rfl, rfl⟩
  · obtain ⟨shown, -, h⟩ := Except.bind_eq_ok_iff.1 h
    cases h
    exact ⟨rfl, rfl, rfl⟩

/-- A line that gets a size leaves the focus where it is. -/
theorem of_resize {axis : Axis} {i : Index} {size : Binary64}
    (h : file.resize axis i size = .ok after) : file.SameFocus after := by
  obtain ⟨sheet, -, h⟩ := Except.bind_eq_ok_iff.1 h
  cases h
  exact ⟨rfl, rfl, rfl⟩

end SameFocus

/-! ### The typed text stands at the anchor -/

/-- The text that is being typed stands at the anchor of the selection. -/
def Anchored (file : OpenFile) : Prop :=
  ∀ session, file.edit = some session → file.selection.map Selection.anchor = some session.cell

namespace Anchored

/-- Where nothing is typed, there is nothing to stand elsewhere. -/
theorem of_edit (h : file.edit = none) : file.Anchored := by
  intro session hsession
  rw [h] at hsession
  cases hsession

/-- A change that keeps the focus keeps a typed text at the anchor. -/
theorem of_sameFocus (h : file.Anchored) (hfocus : file.SameFocus after) : after.Anchored := by
  intro session hsession
  have hcell := hfocus.cell
  rw [hsession] at hcell
  obtain ⟨before, hbefore, hsame⟩ := Option.map_eq_some_iff.1 hcell.symm
  rw [hfocus.anchor, h before hbefore, hsame]

/-- A press of the pointer keeps a typed text at the anchor: it ends the typing in another cell, and
in the same one the anchor stays. -/
theorem pointerDown (h : file.Anchored) {a : Address} {extend : Bool}
    (hafter : file.pointerDown a extend = .ok after) : after.Anchored := by
  rw [OpenFile.pointerDown] at hafter
  split at hafter
  · obtain ⟨committed, hcommitted, hafter⟩ := Except.bind_eq_ok_iff.1 hafter
    cases hafter
    exact .of_edit
      (show committed.edit = none from (SameFocus.of_commit hcommitted).edit_eq_none rfl)
  · rename_i hother
    cases hafter
    intro session hsession
    have hanchor := h session hsession
    -- the text is typed into the cell that is pressed
    have hcell : session.cell = a := by
      rw [editsOtherThan, hsession] at hother
      simpa using hother
    cases hselection : file.selection with
    | none => simp [hselection] at hanchor
    | some selection =>
      rw [hselection] at hanchor
      cases extend with
      | true => exact hanchor
      | false => exact congrArg some hcell.symm

/-- The cell that is pressed twice becomes the anchor, and its value is edited there. -/
theorem doubleClick {a : Address} (hafter : file.doubleClick a = .ok after) : after.Anchored := by
  obtain ⟨committed, -, hafter⟩ := Except.bind_eq_ok_iff.1 hafter
  obtain ⟨sheet, -, hafter⟩ := Except.bind_eq_ok_iff.1 hafter
  cases hafter
  intro session hsession
  cases hsession
  rfl

/-- The first character of a text is typed at the anchor, the others behind it. -/
theorem typeChar (h : file.Anchored) {c : Char} {used : Bool}
    (hafter : file.typeChar c = .ok (used, after)) : after.Anchored := by
  cases hedit : file.edit with
  | some session => exact h.of_sameFocus (.of_typeChar hedit hafter)
  | none =>
    cases hsingle : file.selection.filter Selection.isSingleCell with
    | none =>
      rw [OpenFile.typeChar, hedit, hsingle] at hafter
      cases hafter
      exact h
    | some selection =>
      rw [OpenFile.typeChar, hedit, hsingle] at hafter
      obtain ⟨written, hwritten, hafter⟩ := Except.bind_eq_ok_iff.1 hafter
      cases hafter
      -- a new text is begun at the anchor
      intro session hsession
      cases hsession
      have hselection : file.selection = some selection :=
        (Option.filter_eq_some_iff.1 hsingle).1
      rw [show written.selection.map _ = _ from (SameFocus.of_write hwritten).anchor, hselection]
      rfl

end Anchored

/-! ### The text stays where it is typed -/

/-- A text is being typed into a cell of the sheet that is shown. -/
def Types (sheet : String) (cell : Address) (file : OpenFile) : Prop :=
  file.active = sheet ∧ file.edit.map EditSession.cell = some cell

namespace Types

variable {sheet : String} {cell : Address}

/-- A change that keeps the focus keeps the cell that is typed into. -/
theorem of_sameFocus (h : file.Types sheet cell) (hfocus : file.SameFocus after) :
    after.Types sheet cell :=
  ⟨hfocus.active.trans h.1, hfocus.cell.trans h.2⟩

/-- A text that is typed into a cell is a session with that cell. -/
theorem exists_session (h : file.Types sheet cell) :
    ∃ session, file.edit = some session ∧ session.cell = cell :=
  Option.map_eq_some_iff.1 h.2

/-- A press on the cell that is typed into goes on with the typing. -/
theorem pointerDown (h : file.Types sheet cell) {a : Address} {extend : Bool}
    (hsame : file.editsOtherThan a = false) (hafter : file.pointerDown a extend = .ok after) :
    after.Types sheet cell := by
  rw [OpenFile.pointerDown, hsame] at hafter
  cases hafter
  exact h

end Types

/-! ### Operations after which no text is typed -/

/-- Nothing is typed after the typing has ended. -/
theorem edit_of_commit (h : file.commit = .ok committed) : committed.edit = none :=
  (SameFocus.of_commit h).edit_eq_none rfl

/-- A press on another cell ends the typing. -/
theorem edit_of_pointerDown {a : Address} {extend : Bool} (hother : file.editsOtherThan a = true)
    (h : file.pointerDown a extend = .ok after) : after.edit = none := by
  rw [pointerDown, if_pos hother] at h
  obtain ⟨committed, hcommitted, h⟩ := Except.bind_eq_ok_iff.1 h
  cases h
  exact show committed.edit = none from edit_of_commit hcommitted

/-- An arrow key ends the typing. -/
theorem edit_of_arrow {direction : Direction} {extend : Bool}
    (h : file.arrow direction extend = .ok after) : after.edit = none := by
  obtain ⟨committed, hcommitted, h⟩ := Except.bind_eq_ok_iff.1 h
  cases h
  exact show committed.edit = none from edit_of_commit hcommitted

/-- The selection of a whole line ends the typing. -/
theorem edit_of_selectLine {axis : Axis} {i : Index}
    (h : file.selectLine axis i = .ok after) : after.edit = none := by
  obtain ⟨committed, hcommitted, h⟩ := Except.bind_eq_ok_iff.1 h
  cases h
  exact show committed.edit = none from edit_of_commit hcommitted

/-- Nothing is typed after a typed text was confirmed. -/
theorem edit_of_commitEdit {ended : Bool} (h : file.commitEdit = .ok (ended, after)) :
    after.edit = none := by
  obtain ⟨committed, hcommitted, h⟩ := Except.bind_eq_ok_iff.1 h
  cases h
  exact edit_of_commit hcommitted

/-- Nothing is typed in a sheet that has just been shown. -/
theorem edit_of_restore {options : GridOptions} {name : String}
    (h : file.restore options name = .ok after) : after.edit = none := by
  obtain ⟨sheet, -, h⟩ := Except.bind_eq_ok_iff.1 h
  cases h
  rfl

/-- Taking a write back drops the text that is being typed. -/
theorem edit_of_takeBack {undone : Bool} (h : file.takeBack = .ok (undone, after)) :
    after.edit = none := by
  rw [takeBack] at h
  split at h
  · cases h
    rfl
  · obtain ⟨sheet, -, h⟩ := Except.bind_eq_ok_iff.1 h
    cases h
    rfl

/-- Pasting ends the typing. -/
theorem edit_of_pasteRows {selection : Selection} {rows : List (List (List Char))}
    {range : CellRange} (h : file.pasteRows selection rows = .ok (range, after)) :
    after.edit = none := by
  obtain ⟨committed, hcommitted, h⟩ := Except.bind_eq_ok_iff.1 h
  obtain ⟨written, hwritten, h⟩ := Except.bind_eq_ok_iff.1 h
  cases h
  exact (SameFocus.of_writeAll hwritten).edit_eq_none (edit_of_commit hcommitted)

/-- Nothing is typed after lines were inserted or deleted. -/
theorem edit_of_restructure {change : Worksheet → Worksheet}
    (h : file.restructure change = .ok after) : after.edit = none := by
  obtain ⟨committed, hcommitted, h⟩ := Except.bind_eq_ok_iff.1 h
  obtain ⟨sheet, -, h⟩ := Except.bind_eq_ok_iff.1 h
  cases h
  exact show committed.edit = none from edit_of_commit hcommitted

/-- Nothing is typed after another sheet was shown. -/
theorem edit_of_showSheet {options : GridOptions} {name : String}
    (h : file.showSheet options name = .ok after) : after.edit = none := by
  obtain ⟨sheet, -, h⟩ := Except.bind_eq_ok_iff.1 h
  obtain ⟨committed, -, h⟩ := Except.bind_eq_ok_iff.1 h
  obtain ⟨captured, -, h⟩ := Except.bind_eq_ok_iff.1 h
  exact edit_of_restore h

end OpenFile

namespace Editor

open OpenFile

variable {editor : Editor} {file after : OpenFile}

/-- What an action keeps, an editor that carries it out keeps, also when the action is refused. -/
theorem withFile_keeps {P : OpenFile → Prop} (hfile : editor.file = some file) (h : P file)
    {action : OpenFile → Except GridError (Answer × OpenFile)}
    (haction : ∀ answer after, action file = .ok (answer, after) → P after)
    (hafter : (editor.withFile action).2.file = some after) : P after := by
  simp only [withFile, hfile] at hafter
  split at hafter
  · rename_i answer next hok
    cases hafter
    exact haction answer after hok
  · rw [hfile] at hafter
    cases hafter
    exact h

/-- What an action on the open file keeps holds of the file afterwards, whether or not the action is
refused. -/
theorem changeFile_keeps {P : OpenFile → Prop} (hfile : editor.file = some file) (h : P file)
    {action : OpenFile → Except GridError OpenFile}
    (haction : ∀ after, action file = .ok after → P after)
    (hafter : (editor.changeFile action).2.file = some after) : P after := by
  refine withFile_keeps hfile h (fun answer next hok => ?_) hafter
  obtain ⟨changed, hchanged, heq⟩ := Except.map_eq_ok_iff.1 hok
  cases heq
  exact haction next hchanged

/-- What an action on the open file keeps holds of the file afterwards, for an action that answers
something, too. -/
theorem withFile_map_keeps {P : OpenFile → Prop} {α : Type} {f : α → Answer}
    (hfile : editor.file = some file) (h : P file)
    {action : OpenFile → Except GridError (α × OpenFile)}
    (haction : ∀ a after, action file = .ok (a, after) → P after)
    (hafter : (editor.withFile fun file =>
      (action file).map fun result => (f result.1, result.2)).2.file = some after) :
    P after := by
  refine withFile_keeps hfile h (fun _ _ hok => ?_) hafter
  obtain ⟨⟨a, changed⟩, hchanged, heq⟩ := Except.map_eq_ok_iff.1 hok
  cases heq
  exact haction a changed hchanged

/-! ### What an operation does to the typed text -/

/-- A file after an operation: the typed text stands at the anchor if it did before, and a text that
the operation neither ends nor drops is still typed into its cell. -/
structure Follows (editor : Editor) (operation : Operation) (file after : OpenFile) : Prop where
  /-- The typed text stands at the anchor. -/
  anchored : file.Anchored → after.Anchored
  /-- The text is typed into the same cell. -/
  types : operation.endsTyping editor file = false → operation.dropsTyping editor = false →
    ∀ sheet cell, file.Types sheet cell → after.Types sheet cell

namespace Follows

variable {operation : Operation}

/-- A change that keeps the focus is none that typing would notice. -/
theorem of_sameFocus (h : file.SameFocus after) : editor.Follows operation file after :=
  ⟨fun hanchored => hanchored.of_sameFocus h, fun _ _ _ _ htypes => htypes.of_sameFocus h⟩

theorem refl (file : OpenFile) : editor.Follows operation file file := of_sameFocus (.refl file)

/-- An operation that ends the typing has only to leave the text at the anchor. -/
theorem of_ends (hends : operation.endsTyping editor file = true) (h : after.Anchored) :
    editor.Follows operation file after :=
  ⟨fun _ => h, fun hnot => absurd (hends.symm.trans hnot) Bool.noConfusion⟩

end Follows

section

variable (hfile : editor.file = some file)

include hfile

/-- Saving ends the typing. -/
theorem follows_save (hafter : editor.save.2.file = some after) :
    editor.Follows .save file after := by
  simp only [save, hfile] at hafter
  split at hafter
  · cases hfile.symm.trans hafter
    exact .refl file
  · rename_i captured hcaptured
    obtain ⟨committed, hcommitted, hcapture⟩ := Except.bind_eq_ok_iff.1 hcaptured
    -- the typing has ended, whether the file can be written or not
    have hedit : captured.edit = none :=
      (SameFocus.of_capture hcapture).edit_eq_none (edit_of_commit hcommitted)
    split at hafter <;> cases hafter <;> exact .of_ends rfl (.of_edit hedit)

/-- Pasting ends the typing if there is something to paste, and changes nothing otherwise. -/
theorem follows_paste (hafter : editor.paste.2.file = some after) :
    editor.Follows (.command .paste) file after := by
  have hkept : editor.file = some after → editor.Follows (.command .paste) file after :=
    fun hafter => Option.some.inj (hfile.symm.trans hafter) ▸ .refl file
  simp only [paste, hfile] at hafter
  split at hafter
  · exact hkept hafter
  · exact hkept hafter
  · rename_i selection text _ htext
    split at hafter
    · exact hkept hafter
    · rename_i rows hrows
      -- the text on the clipboard has rows, so it ends the typing
      have hends : Operation.endsTyping editor file (.command .paste) = true := by
        simpa [Operation.endsTyping, htext] using hrows
      exact withFile_map_keeps (f := fun range => .pasted (some range)) hfile (.refl file)
        (fun _ _ hok => .of_ends hends (.of_edit (edit_of_pasteRows hok))) hafter

/-- Every command that neither ends nor drops a typed text leaves it in its cell. -/
theorem follows_command {command : Command}
    (hafter : (editor.performCommand command).2.file = some after) :
    editor.Follows (.command command) file after := by
  cases command with
  | pointerDown a extend =>
    exact changeFile_keeps hfile (.refl file)
      (fun _ hok => ⟨(·.pointerDown hok), fun hends _ _ _ h => h.pointerDown hends hok⟩) hafter
  | pointerMove a =>
    refine withFile_keeps hfile (.refl file) (fun _ _ hok => ?_) hafter
    cases hok
    exact .of_sameFocus (.pointerMove file a)
  | pointerUp =>
    refine changeFile_keeps hfile (.refl file) (fun _ hok => ?_) hafter
    -- the view is captured after the pointer was released, which moves nothing
    have hfocus := SameFocus.of_capture hok
    exact .of_sameFocus ⟨hfocus.active, hfocus.anchor, hfocus.cell⟩
  | doubleClick a =>
    exact changeFile_keeps hfile (.refl file) (fun _ hok => .of_ends rfl (.doubleClick hok)) hafter
  | arrow direction extend =>
    exact changeFile_keeps hfile (.refl file)
      (fun _ hok => .of_ends rfl (.of_edit (edit_of_arrow hok))) hafter
  | selectLine axis i =>
    exact changeFile_keeps hfile (.refl file)
      (fun _ hok => .of_ends rfl (.of_edit (edit_of_selectLine hok))) hafter
  | typeChar c =>
    simp only [performCommand] at hafter
    split at hafter
    · cases hfile.symm.trans hafter
      exact .refl file
    · refine withFile_map_keeps hfile (.refl file) (fun _ _ hok => ⟨(·.typeChar hok), ?_⟩) hafter
      intro _ _ sheet cell h
      -- a text that is being typed is continued, not begun again
      obtain ⟨session, hedit, -⟩ := h.exists_session
      exact h.of_sameFocus (.of_typeChar hedit hok)
  | setEditText text =>
    refine withFile_keeps hfile (.refl file) (fun _ _ hok => ?_) hafter
    cases hok
    exact .of_sameFocus (.setEditText file text)
  | commitEdit =>
    exact withFile_map_keeps hfile (.refl file)
      (fun _ _ hok => .of_ends rfl (.of_edit (edit_of_commitEdit hok))) hafter
  | blur =>
    refine withFile_map_keeps hfile (.refl file) (fun _ _ hok => ?_) hafter
    exact .of_ends rfl (.of_edit (@edit_of_commitEdit { file with dragging := false } _ _ hok))
  | delete =>
    exact withFile_map_keeps hfile (.refl file) (fun _ _ hok => .of_sameFocus (.of_delete hok))
      hafter
  | copy =>
    cases ((file_copy editor).trans hfile).symm.trans hafter
    exact .refl file
  | paste => exact follows_paste hfile hafter
  | insertLine axis i =>
    exact changeFile_keeps hfile (.refl file)
      (fun _ hok => .of_ends rfl (.of_edit (edit_of_restructure hok))) hafter
  | deleteLine axis i =>
    exact changeFile_keeps hfile (.refl file)
      (fun _ hok => .of_ends rfl (.of_edit (edit_of_restructure hok))) hafter
  | undo =>
    exact withFile_map_keeps hfile (.refl file)
      (fun _ _ hok => ⟨fun _ => .of_edit (edit_of_takeBack hok),
        fun _ hdrops => absurd hdrops.symm Bool.false_ne_true⟩) hafter
  | scroll event =>
    exact withFile_map_keeps hfile (.refl file) (fun _ _ hok => .of_sameFocus (.of_scrolled hok))
      hafter
  | resize axis i size =>
    exact changeFile_keeps hfile (.refl file) (fun _ hok => .of_sameFocus (.of_resize hok)) hafter
  | setActiveSheet name =>
    refine changeFile_keeps hfile (.refl file) (fun _ hok => ?_) hafter
    -- the sheet that is shown exists
    have hname : name ∈ file.book.names := by
      refine Classical.byContradiction fun hnot => ?_
      rw [showSheet, Workbook.sheet_eq_error hnot] at hok
      cases hok
    exact .of_ends (List.contains_iff_mem.2 hname) (.of_edit (edit_of_showSheet hok))

/-- What an operation that neither opens nor closes a file does to the typed text. -/
theorem follows_perform {operation : Operation} (hkeeps : operation.replacesFile = false)
    (hafter : (editor.perform operation).2.file = some after) :
    editor.Follows operation file after := by
  -- apart from commands and saving, operations leave the focus where it is
  cases operation with
  | command command => exact follows_command hfile hafter
  | openFile path view => cases hkeeps
  | close => cases hkeeps
  | save => exact follows_save hfile hafter
  | captureView =>
    refine withFile_keeps hfile (.refl file) (fun _ _ hok => ?_) hafter
    obtain ⟨captured, hcaptured, heq⟩ := Except.map_eq_ok_iff.1 hok
    cases heq
    exact .of_sameFocus (.of_capture hcaptured)
  | setClient size =>
    refine withFile_keeps hfile (.refl file) (fun _ _ hok => ?_) hafter
    obtain ⟨viewport, -, hok⟩ := Except.bind_eq_ok_iff.1 hok
    cases hok
    exact .of_sameFocus ⟨rfl, rfl, rfl⟩
  | write a value =>
    exact changeFile_keeps hfile (.refl file) (fun _ hok => .of_sameFocus (.of_write hok)) hafter
  | writeJson a value =>
    simp only [perform] at hafter
    split at hafter
    · cases hfile.symm.trans hafter
      exact .refl file
    · exact changeFile_keeps hfile (.refl file) (fun _ hok => .of_sameFocus (.of_write hok)) hafter

end

/-- What holds of every file that is opened, and is kept by every operation that neither opens nor
closes a file, holds of the open file of every reachable editor. -/
theorem Reachable.file_induction {P : OpenFile → Prop}
    (hopen : ∀ path book view options file,
      OpenFile.ofBook path book view options = .ok file → P file)
    (hperform : ∀ (editor : Editor) file operation after, editor.file = some file →
      file.content.Sound → P file → operation.replacesFile = false →
      (editor.perform operation).2.file = some after → P after)
    (reached : Reachable editor) (hfile : editor.file = some file) : P file := by
  induction reached generalizing file with
  | start store clipboard options => cases hfile
  | provide reached store clipboard ih => exact ih hfile
  | @perform editor reached operation ih =>
    cases hkeeps : operation.replacesFile with
    | true =>
      cases operation with
      | openFile path view =>
        simp only [Editor.perform, openFile] at hfile
        split at hfile
        · rename_i opened hopened
          cases hfile
          obtain ⟨book, -, hopened⟩ := Except.bind_eq_ok_iff.1 hopened
          exact hopen path book _ _ file hopened
        · exact ih hfile
      | close => cases hfile
      | _ => cases hkeeps
    | false =>
      -- no operation but opening brings a file
      cases hbefore : editor.file with
      | none =>
        rw [file_perform_of_none hbefore hkeeps] at hfile
        cases hfile
      | some before =>
        exact hperform editor before operation file hbefore (reached.sound hbefore) (ih hbefore)
          hkeeps hfile

/-- In a reachable editor, a text that is being typed stands at the anchor of the selection. -/
theorem Reachable.anchored (reached : Reachable editor) (hfile : editor.file = some file) :
    file.Anchored := by
  refine reached.file_induction (P := Anchored) (fun path book view options file hopened => ?_)
    (fun editor file operation after hfile _ h hkeeps hafter =>
      (follows_perform hfile hkeeps hafter).anchored h) hfile
  exact .of_edit (edit_of_restore hopened)

end Editor

end EnsembleDesk

import EnsembleDesk.Proofs.Result
import EnsembleDesk.Proofs.Session.Rewind
import EnsembleDesk.Session.Run
/-!
# What an open file holds

Most of an open file only says how it is looked at. `Content` is the rest: the workbook, the sheet
that is shown, the undo log, and whether something changed that the log does not record. An
operation changes the content by elementary changes, each of which is one of the eight kinds of
`Change`.

`Content.Sound` is what every other invariant of the content rests on: the sheet that is shown and
the sheets of the recorded writes exist, and the log is within its limit. Every elementary change
keeps it (`Content.Sound.apply`).
-/

namespace EnsembleDesk

/-- What an open file holds, apart from how it is looked at. -/
structure Content where
  /-- The workbook. -/
  book : Workbook
  /-- The name of the sheet that is shown. -/
  active : String
  /-- The writes that can be taken back. -/
  undo : UndoLog
  /-- Whether something changed that the undo log does not record. -/
  restructured : Bool

/-- The content of an open file. -/
def OpenFile.content (file : OpenFile) : Content :=
  ⟨file.book, file.active, file.undo, file.restructured⟩

/-- An elementary change of the content. -/
inductive Change where
  /-- A cell of the sheet that is shown is written or cleared, and that is recorded. -/
  | write (a : Address) (value : Option CellValue)
  /-- The used range of the sheet that is shown is extended. -/
  | cover (range : CellRange)
  /-- A row or column is inserted into the sheet that is shown. -/
  | insertLine (axis : Axis) (i : Index)
  /-- A row or column of the sheet that is shown is deleted. -/
  | deleteLine (axis : Axis) (i : Index)
  /-- A row or column of the sheet that is shown gets a size. -/
  | resize (axis : Axis) (i : Index) (size : Binary64)
  /-- A sheet is shown, with the sizes of a view. -/
  | present (name : String) (view : SheetView)
  /-- The last recorded write is taken back. -/
  | takeBack
  /-- The content is saved. -/
  | save

namespace Content

/-- The record of a write into the sheet that is shown. -/
def edit (content : Content) (a : Address) (value : Option CellValue) : CellEdit :=
  ⟨content.active, a, content.book.cell? content.active a, value⟩

/-- Changes the sheet that is shown. -/
def updateSheet (content : Content) (f : Worksheet → Worksheet) : Content :=
  { content with book := content.book.update content.active f }

/-- The content after an elementary change. A sheet that does not exist cannot be shown. -/
def apply (content : Content) : Change → Content
  | .write a value =>
    { content.updateSheet (·.put a value) with undo := content.undo.push (content.edit a value) }
  | .cover range => content.updateSheet (·.cover range)
  | .insertLine axis i =>
    { content.updateSheet (·.insertLine axis i) with
      undo := content.undo.clear, restructured := true }
  | .deleteLine axis i =>
    { content.updateSheet (·.deleteLine axis i) with
      undo := content.undo.clear, restructured := true }
  | .resize axis i size =>
    { content.updateSheet (·.mapSizes axis (·.set i (Sizes.atLeastOne size))) with
      restructured := true }
  | .present name view =>
    if name ∈ content.book.names then
      { content with book := content.book.update name (OpenFile.resized · view), active := name }
    else content
  | .takeBack =>
    match content.undo.pop with
    | none => content
    | some (edit, undo) => { content with book := content.book.takeBack edit, undo }
  | .save => { content with undo := content.undo.markClean, restructured := false }

/-- A sheet that exists is shown with the sizes of its view. -/
theorem apply_present (content : Content) {name : String} (h : name ∈ content.book.names)
    (view : SheetView) :
    content.apply (.present name view) =
      { content with book := content.book.update name (OpenFile.resized · view), active := name } :=
  if_pos h

/-- The content after several elementary changes, in order. -/
def applyAll (content : Content) (changes : List Change) : Content := changes.foldl apply content

/-- The first of several changes is made before the others. -/
@[simp]
theorem applyAll_cons (content : Content) (change : Change) (changes : List Change) :
    content.applyAll (change :: changes) = (content.apply change).applyAll changes := rfl

/-- Changes are made one group after the other. -/
theorem applyAll_append (content : Content) (first second : List Change) :
    content.applyAll (first ++ second) = (content.applyAll first).applyAll second :=
  List.foldl_append

/-! ### Sound contents -/

/-- The sheet that is shown exists, and so do the sheets of the recorded writes; the undo log has
its usual limit and keeps it. -/
structure Sound (content : Content) : Prop where
  /-- The sheet that is shown exists. -/
  active : content.active ∈ content.book.names
  /-- The sheets of the recorded writes exist. -/
  edits : ∀ edit ∈ content.undo.edits, edit.sheet ∈ content.book.names
  /-- The log keeps a thousand writes. -/
  limit : content.undo.limit = 1000
  /-- The log holds no more writes than it keeps. -/
  length_le : content.undo.length ≤ 1000

/-- A change of the sheet that is shown keeps the names of the sheets. -/
theorem names_updateSheet {f : Worksheet → Worksheet}
    (hf : ∀ sheet, (f sheet).name = sheet.name) (content : Content) :
    (content.updateSheet f).book.names = content.book.names :=
  Workbook.names_update hf _ _

/-- Restored sizes keep the name of a sheet. -/
@[simp]
theorem name_resized (sheet : Worksheet) (view : SheetView) :
    (OpenFile.resized sheet view).name = sheet.name := rfl

/-- An elementary change keeps the names of the sheets. -/
theorem names_apply (content : Content) (change : Change) :
    (content.apply change).book.names = content.book.names := by
  cases change with
  | write a value => exact names_updateSheet (fun sheet => Worksheet.name_put sheet a value) content
  | cover range => exact names_updateSheet (fun sheet => Worksheet.name_cover sheet range) content
  | insertLine axis i =>
    exact names_updateSheet (fun sheet => Worksheet.name_insertLine sheet axis i) content
  | deleteLine axis i =>
    exact names_updateSheet (fun sheet => Worksheet.name_deleteLine sheet axis i) content
  | resize axis i size =>
    exact names_updateSheet (fun sheet => Worksheet.name_mapSizes sheet axis _) content
  | present name view =>
    rw [apply]
    split
    · exact Workbook.names_update (fun sheet => name_resized sheet view) _ _
    · rfl
  | takeBack =>
    rw [apply]
    split
    · rfl
    · exact Workbook.names_takeBack _ _
  | save => rfl

/-- No elementary change renames a sheet, adds one or removes one. -/
theorem names_applyAll (content : Content) (changes : List Change) :
    (content.applyAll changes).book.names = content.book.names := by
  induction changes generalizing content with
  | nil => rfl
  | cons change changes ih => rw [applyAll_cons, ih, names_apply]

namespace Sound

variable {content : Content}

/-- An elementary change keeps the content sound. -/
theorem apply (h : content.Sound) (change : Change) : (content.apply change).Sound := by
  have hnames := names_apply content change
  cases change with
  | write a value =>
    refine ⟨hnames ▸ h.active, fun edit hedit => ?_, (UndoLog.limit_push _ _).trans h.limit, ?_⟩
    · rw [hnames]
      rcases UndoLog.mem_edits_push hedit with rfl | hedit
      · exact h.active
      · exact h.edits edit hedit
    -- the log is cut back as it grows
    · have := UndoLog.length_push_le (content.edit a value) (h.limit.symm ▸ h.length_le)
      rwa [h.limit] at this
  | cover range => exact ⟨hnames ▸ h.active, hnames ▸ h.edits, h.limit, h.length_le⟩
  | insertLine axis i =>
    -- moving lines empties the log
    exact ⟨hnames ▸ h.active, fun _ hedit => absurd hedit List.not_mem_nil, h.limit, Nat.zero_le _⟩
  | deleteLine axis i =>
    exact ⟨hnames ▸ h.active, fun _ hedit => absurd hedit List.not_mem_nil, h.limit, Nat.zero_le _⟩
  | resize axis i size => exact ⟨hnames ▸ h.active, hnames ▸ h.edits, h.limit, h.length_le⟩
  | present name view =>
    by_cases hname : name ∈ content.book.names
    · rw [content.apply_present hname] at hnames ⊢
      exact ⟨hnames ▸ hname, hnames ▸ h.edits, h.limit, h.length_le⟩
    · rw [Content.apply, if_neg hname]
      exact h
  | takeBack =>
    rw [Content.apply, UndoLog.pop] at hnames ⊢
    cases hedits : content.undo.edits with
    | nil => exact h
    | cons edit edits =>
      rw [hedits] at hnames
      have hlength := h.length_le
      rw [UndoLog.length, hedits, List.length_cons] at hlength
      -- what is left of the log was in it before
      refine ⟨hnames ▸ h.active, fun other hother => ?_, h.limit, Nat.le_of_succ_le hlength⟩
      exact hnames ▸ h.edits other (hedits ▸ List.mem_cons_of_mem _ hother)
  | save => exact ⟨h.active, h.edits, h.limit, h.length_le⟩

/-- Elementary changes keep the content sound. -/
theorem applyAll (h : content.Sound) (changes : List Change) :
    (content.applyAll changes).Sound := by
  induction changes generalizing content with
  | nil => exact h
  | cons change changes ih => exact ih (h.apply change)

end Sound

/-! ### Writes -/

section Write

variable {content : Content}

/-- A write that is taken back right after it was made leaves the cells as they were. -/
theorem takeBack_write (h : content.Sound) (a : Address) (value : Option CellValue) :
    ((content.apply (.write a value)).book.takeBack (content.edit a value)).Alike content.book :=
  Workbook.takeBack_update_put h.active a value

/-- A write that is not recorded leaves the cells as they were. -/
theorem alike_write_of_not_changes (h : content.Sound) {a : Address} {value : Option CellValue}
    (hchanges : (content.edit a value).changes = false) :
    (content.apply (.write a value)).book.Alike content.book := by
  rw [CellEdit.changes, Bool.not_eq_false'] at hchanges
  exact Workbook.alike_update_put h.active hchanges

end Write

end Content

end EnsembleDesk

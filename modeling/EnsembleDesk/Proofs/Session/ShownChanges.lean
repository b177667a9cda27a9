import EnsembleDesk.Proofs.Session.UndoInverse
/-!
# Changes that are shown

A write is recorded if the values before and after it are not the same. That is not the same
relation as showing the same text: the two zeros are equal, and are shown with their signs. They are
the only such values (`CellValue.sameCell_iff_oppositeZeros`). So a write after which a cell shows
something else is recorded, unless it replaces one zero by the other
(`Content.changes_iff_of_shown`). A write that is recorded leaves something unsaved
(`Content.isDirty_write`), and the undo that takes it back brings the value before it back.

## Main results

* `Editor.shown_change_is_recorded`: which of the writes of an operation that change what is shown
  are recorded, and what becomes of those that are;
* `Editor.sign_of_zero_is_not_recorded`: the sign of a zero is changed, and nothing is unsaved.
-/

namespace EnsembleDesk

/-- When a write is recorded, the log is not where it was when the file was saved. -/
theorem UndoLog.isClean_push {log : UndoLog} {edit : CellEdit} (hchanges : edit.changes = true)
    (hlength : log.length ≤ log.limit) : (log.push edit).isClean = false := by
  have hpushed : (log.push edit).length = min log.limit (log.length + 1) := by
    rw [push, if_pos hchanges, length, List.length_take, List.length_cons]
    rfl
  have hsaved : (log.push edit).saved = log.savedAfter := by rw [push, if_pos hchanges]
  rw [isClean, hpushed, hsaved, decide_eq_false_iff_not, savedAfter]
  intro hclean
  obtain ⟨saved, -, hclean⟩ := Option.bind_eq_some_iff.1 hclean
  -- the save point is not in front of the writes before, and the new one comes behind it
  split at hclean
  · cases hclean
  · split at hclean
    · have := Option.some.inj hclean
      omega
    · split at hclean
      · cases hclean
      · have := Option.some.inj hclean
        omega

namespace Workbook

theorem names_rewind (book : Workbook) (edits : List CellEdit) :
    (book.rewind edits).names = book.names := by
  induction edits generalizing book with
  | nil => rfl
  | cons edit edits ih => rw [rewind_cons, ih, names_takeBack]

/-- When a write is taken back, its cell holds the value before. -/
theorem cell?_takeBack_self {book : Workbook} {edit : CellEdit} (h : edit.sheet ∈ book.names) :
    (book.takeBack edit).cell? edit.sheet edit.cell = edit.old := by
  rw [cell?_takeBack h]
  exact if_pos ⟨rfl, rfl⟩

end Workbook

namespace Content

variable {content : Content} {a : Address} {value : Option CellValue}

/-- Whether there are changes that were not saved. -/
def isDirty (content : Content) : Bool := content.restructured || !content.undo.isClean

/-- What is shown in a cell of the sheet that is shown. -/
def shown (content : Content) (a : Address) : Option String :=
  (content.book.cell? content.active a).map CellValue.display

/-- A write is recorded: its record is the last one of the log, and something is unsaved. -/
structure Records (content : Content) (a : Address) (value : Option CellValue) : Prop where
  /-- The record is put in front of the log. -/
  edits : (content.apply (.write a value)).undo.edits =
    (content.edit a value :: content.undo.edits).take 1000
  /-- Something is unsaved. -/
  dirty : (content.apply (.write a value)).isDirty = true

theorem isDirty_write (h : content.Sound) (hchanges : (content.edit a value).changes = true) :
    (content.apply (.write a value)).isDirty = true := by
  have hclean : (content.apply (.write a value)).undo.isClean = false :=
    UndoLog.isClean_push hchanges (h.limit.symm ▸ h.length_le)
  rw [isDirty, hclean]
  exact Bool.or_true _

/-- A write that changes its cell is recorded. -/
theorem records_of_changes (h : content.Sound) (hchanges : (content.edit a value).changes = true) :
    content.Records a value := by
  refine ⟨?_, isDirty_write h hchanges⟩
  have hedits : (content.apply (.write a value)).undo.edits =
      (content.recorded (.write a value) ++ content.undo.edits).take 1000 := edits_apply h rfl rfl
  rwa [recorded, List.filter_cons_of_pos hchanges] at hedits

/-- A write after which a cell shows something else changes it, unless both values are zeros. -/
theorem changes_iff_of_shown (hshown : content.shown a ≠ value.map CellValue.display) :
    (content.edit a value).changes = true ↔
      ¬ CellValue.OppositeZeros (content.book.cell? content.active a) value := by
  rw [← CellValue.sameCell_iff_oppositeZeros hshown, CellEdit.changes, Bool.not_eq_true',
    Bool.not_eq_true]
  rfl

/-- What is unsaved stays so until something is saved or taken back. -/
theorem isDirty_apply (h : content.Sound) (hdirty : content.isDirty = true) {change : Change}
    (htakes : change.takesBack = false) (hsaves : change.saves = false) :
    (content.apply change).isDirty = true := by
  cases change with
  | write a value =>
    cases hchanges : (content.edit a value).changes with
    | true => exact isDirty_write h hchanges
    | false =>
      -- the log stays as it is
      have hundo : (content.apply (.write a value)).undo = content.undo :=
        if_neg (by rw [hchanges]; exact Bool.false_ne_true)
      rw [isDirty, hundo]
      exact hdirty
  | cover range => exact hdirty
  | insertLine axis i => rfl
  | deleteLine axis i => rfl
  | resize axis i size => rfl
  | present name view =>
    rw [apply]
    split
    · exact hdirty
    · exact hdirty
  | takeBack => cases htakes
  | save => cases hsaves

theorem isDirty_applyAll (h : content.Sound) (hdirty : content.isDirty = true)
    {changes : List Change}
    (hchanges : ∀ change ∈ changes, change.takesBack = false ∧ change.saves = false) :
    (content.applyAll changes).isDirty = true := by
  induction changes generalizing content with
  | nil => exact hdirty
  | cons change changes ih =>
    obtain ⟨htakes, hsaves⟩ := hchanges change List.mem_cons_self
    exact ih (h.apply change) (isDirty_apply h hdirty htakes hsaves) fun other hmem =>
      hchanges other (List.mem_cons_of_mem _ hmem)

/-- A record stays in the log while few others come behind it. -/
theorem Records.edits_applyAll (h : content.Sound) (hrecords : content.Records a value)
    {changes : List Change}
    (hchanges : ∀ change ∈ changes, change.movesLines = false ∧ change.takesBack = false)
    (hfew : ((content.apply (.write a value)).recordedAll changes).length < 1000) :
    ∃ earlier, ((content.apply (.write a value)).applyAll changes).undo.edits =
      (content.apply (.write a value)).recordedAll changes ++ content.edit a value :: earlier := by
  obtain ⟨room, hroom⟩ := Nat.exists_eq_add_of_lt hfew
  have hleft : 1000 - ((content.apply (.write a value)).recordedAll changes).length = room + 1 := by
    omega
  refine ⟨content.undo.edits.take room, ?_⟩
  rw [Content.edits_applyAll (h.apply _) hchanges, hrecords.edits, take_append_take,
    List.take_append, List.take_of_length_le (Nat.le_of_lt hfew), hleft, List.take_succ_cons]

end Content

/-! ### Operations that write -/

namespace Editor

variable {editor : Editor} {file : OpenFile} {operation : Operation} {front rest : List Change}
  {a : Address} {value : Option CellValue}

/-- An operation that opens or closes a file writes nothing. -/
theorem replacesFile_of_changes (h : editor.changes file operation ≠ []) :
    operation.replacesFile = false := by
  cases operation with
  | openFile path view => exact absurd rfl h
  | close => exact absurd rfl h
  | _ => rfl

/-- The undo that takes a record back gives its cell the value before. -/
theorem cell?_of_undo (hfile : editor.file = some file) (h : file.content.Sound) {edit : CellEdit}
    (hlast : file.undo.edits.head? = some edit) :
    ∃ undone,
      editor.perform (.command .undo) = (.ok (.flag true), { editor with file := some undone }) ∧
      undone.book.cell? edit.sheet edit.cell = edit.old := by
  obtain ⟨edits, hedits⟩ := List.head?_eq_some_iff.1 hlast
  obtain ⟨undone, hperform, -, -, hbook⟩ := perform_undo hfile h hedits
  refine ⟨undone, hperform, ?_⟩
  rw [hbook]
  exact Workbook.cell?_takeBack_self (h.edits edit (hedits ▸ List.mem_cons_self))

/-- As many undos as records come before one in the log, and one more, give the cell of that record
the value before. -/
theorem cell?_of_undos (hfile : editor.file = some file) (h : file.content.Sound)
    {later earlier : List CellEdit} {edit : CellEdit}
    (hedits : file.undo.edits = later ++ edit :: earlier) :
    (∀ n ≤ later.length,
      ((editor.after (.replicate n (.command .undo))).perform (.command .undo)).1 =
        .ok (.flag true)) ∧
      ∃ undone, (editor.after (.replicate (later.length + 1) (.command .undo))).file = some undone ∧
        undone.book.cell? edit.sheet edit.cell = edit.old := by
  have hsheet : edit.sheet ∈ file.book.names := h.edits edit (by simp [OpenFile.content, hedits])
  rw [List.append_cons] at hedits
  obtain ⟨hanswers, undone, hundone, hbook⟩ := after_undos hfile h hedits
  have hlength : (later ++ [edit]).length = later.length + 1 := by simp
  rw [hlength] at hanswers hundone
  refine ⟨fun n hn => hanswers n (Nat.lt_succ_of_le hn), undone, hundone, ?_⟩
  rw [hbook, Workbook.rewind_append]
  exact Workbook.cell?_takeBack_self (by rwa [Workbook.names_rewind])

/-- Which writes of an operation that change what is shown in their cell are recorded: all but those
that replace one zero by the other, which leave the log as it is. After one that is recorded, and
after the whole operation if it does not save, undo or move lines, something is unsaved; and the
undo that takes it back, which comes after those for what the operation recorded later, gives the
cell the value before. -/
theorem shown_change_is_recorded (reached : Reachable editor) (hfile : editor.file = some file)
    (hchanges : editor.changes file operation = front ++ .write a value :: rest)
    (hshown : (file.content.applyAll front).shown a ≠ value.map CellValue.display) :
    let before := file.content.applyAll front
    let old := before.book.cell? before.active a
    (CellValue.OppositeZeros old value → (before.apply (.write a value)).undo = before.undo) ∧
      (¬ CellValue.OppositeZeros old value →
        before.Records a value ∧
        (operation.movesLines = false → operation.takesBack = false → operation.saves = false →
          (editor.perform operation).2.isDirty = true ∧
          let later := ((before.apply (.write a value)).recordedAll rest).length
          let undos (n : Nat) := (editor.perform operation).2.after (.replicate n (.command .undo))
          later < 1000 →
            (∀ n ≤ later, ((undos n).perform (.command .undo)).1 = .ok (.flag true)) ∧
            ∃ undone, (undos (later + 1)).file = some undone ∧
              undone.book.cell? before.active a = old) ∧
        ∀ {other : Editor} {open' : OpenFile}, Reachable other → other.file = some open' →
          open'.undo.edits.head? = some (before.edit a value) →
          ∃ undone,
            other.perform (.command .undo) =
              (.ok (.flag true), { other with file := some undone }) ∧
            undone.book.cell? before.active a = old) := by
  intro before old
  have hsound : before.Sound := (reached.sound hfile).applyAll front
  refine ⟨fun hzeros => ?_, fun hzeros => ?_⟩
  · refine if_neg fun hrecorded => ?_
    exact (Content.changes_iff_of_shown hshown).1 hrecorded hzeros
  have hrecorded : (before.edit a value).changes = true :=
    (Content.changes_iff_of_shown hshown).2 hzeros
  refine ⟨Content.records_of_changes hsound hrecorded, fun hmoves htakes hsaves => ?_,
    fun reachedOther hopen hlast => cell?_of_undo hopen (reachedOther.sound hopen) hlast⟩
  -- what comes behind the write does only what the operation may do
  have hfollow : ∀ change ∈ rest, change.movesLines = false ∧ change.takesBack = false ∧
      change.saves = false := by
    intro change hmem
    have hmade : change ∈ editor.changes file operation :=
      hchanges ▸ List.mem_append_right front (List.mem_cons_of_mem _ hmem)
    have hcomes := comesOf_of_mem_changes hmade
    exact ⟨hcomes.movesLines hmoves, hcomes.takesBack htakes, hcomes.saves hsaves⟩
  -- an operation that writes goes on with the same file
  have hkeeps := replacesFile_of_changes (hchanges ▸ List.append_ne_nil_of_right_ne_nil front
    (List.cons_ne_nil (Change.write a value) rest))
  obtain ⟨after, hafter, hcontent⟩ := content_on hfile (reached.sound hfile) (.perform operation)
    fun other hother => by cases hother; exact hkeeps
  rw [eventChanges, hfile] at hcontent
  simp only [hchanges, Content.applyAll_append, Content.applyAll_cons] at hcontent
  have hwritten := hsound.apply (.write a value)
  have hrecords := Content.records_of_changes hsound hrecorded
  refine ⟨?_, fun hfew => ?_⟩
  · have hdirty := Content.isDirty_applyAll hwritten hrecords.dirty fun change hmem =>
      (hfollow change hmem).2
    rw [← hcontent] at hdirty
    rw [isDirty, show (editor.perform operation).2.file = some after from hafter]
    exact hdirty
  · obtain ⟨earlier, hedits⟩ := hrecords.edits_applyAll hsound
      (fun change hmem => ⟨(hfollow change hmem).1, (hfollow change hmem).2.1⟩) hfew
    rw [← hcontent] at hedits
    exact cell?_of_undos hafter (hcontent ▸ hwritten.applyAll rest) hedits

/-- Two cells are written, and their column is selected. -/
def twoCellsSelected : Editor :=
  newFile.after [.write ⟨0, 0⟩ (some (.text "a")), .write ⟨1, 0⟩ (some (.boolean true)),
    .command (.selectLine .column 0)]

/-- When both are cleared, the first one is cleared first, and comes back with the second undo. -/
theorem shown_change_is_recorded_twoCells :
    ∃ file undone, twoCellsSelected.file = some file ∧
      (twoCellsSelected.perform (.command .delete)).2.isDirty = true ∧
      ((twoCellsSelected.perform (.command .delete)).2.after
        [.command .undo, .command .undo]).file = some undone ∧
      undone.book.cell? file.active ⟨0, 0⟩ = some (.text "a") := by
  have hopen : twoCellsSelected.file.isSome = true := by decide +kernel
  have hfile := (Option.some_get hopen).symm
  let before := (twoCellsSelected.file.get hopen).content.applyAll []
  have hold : before.book.cell? before.active ⟨0, 0⟩ = some (.text "a") := by
    decide +kernel +revert
  have hlater : ((before.apply (.write ⟨0, 0⟩ none)).recordedAll
      [.write ⟨1, 0⟩ none]).length = 1 := by
    decide +kernel +revert
  have hchanges : twoCellsSelected.changes (twoCellsSelected.file.get hopen) (.command .delete) =
      [] ++ .write ⟨0, 0⟩ none :: [.write ⟨1, 0⟩ none] := rfl
  have hshown : before.shown ⟨0, 0⟩ ≠ none := by
    rw [Content.shown, hold]
    nofun
  obtain ⟨-, hrecorded⟩ :=
    shown_change_is_recorded (newFile_reachable.of_after _) hfile hchanges hshown
  obtain ⟨-, hperformed, -⟩ := hrecorded fun ⟨_, _, _, hnone, _⟩ => nomatch hnone
  obtain ⟨hdirty, hundos⟩ := hperformed rfl rfl rfl
  obtain ⟨-, undone, hundone, hcell⟩ := hundos (by rw [hlater]; decide)
  rw [hlater] at hundone
  exact ⟨_, undone, hfile, hdirty, hundone, hcell.trans hold⟩

/-- A zero is written and saved. -/
def savedZero : Editor := newFile.after [.write ⟨0, 0⟩ (some (.number 0)), .save]

/-- When its sign is changed, the cell shows something else, and nothing is unsaved. -/
theorem sign_of_zero_is_not_recorded :
    ¬ ∀ (editor : Editor) (file : OpenFile) (a : Address) (value : Option CellValue),
      Reachable editor → editor.file = some file →
      file.content.shown a ≠ value.map CellValue.display →
      (editor.perform (.write a value)).2.isDirty = true := by
  intro h
  have hopen : savedZero.file.isSome = true := by decide +kernel
  have hdirty := h savedZero (savedZero.file.get hopen) ⟨0, 0⟩ (some (.number (-.zero)))
    (newFile_reachable.of_after _) (Option.some_get hopen).symm (by decide +kernel +revert)
  have hclean :
      (savedZero.perform (.write ⟨0, 0⟩ (some (.number (-.zero))))).2.isDirty = false := by
    decide +kernel
  rw [hclean] at hdirty
  cases hdirty

end Editor

end EnsembleDesk

import EnsembleDesk.Proofs.Session.Pasting
import EnsembleDesk.Proofs.Session.UndoInverse
import EnsembleDesk.Proofs.Session.UsedRange
import EnsembleDesk.Proofs.Sheet.Selections
import Mathlib.Data.Set.Card
/-!
# Clearing the selected cells

Deleting clears the selected cells that are not empty, one after the other. A selection may have no
bound, and is cut back to the used range first. That loses no cell, since the used range holds all
of them (`Selection.mem_clamped_iff`), so the cells that are cleared are those of the rectangle that
the selection spans (`OpenFile.mem_clearedCells_iff`). Each of them was recorded with its value
(`Content.recordedAll_clears`), and to take them all back writes these values again
(`Workbook.cell?_rewind`).

## Main results

* `Editor.delete_clears_selection`: which cells are cleared, how many they are, what else stays as
  it is, and that as many undos restore the cells.
-/

namespace EnsembleDesk

/-! ### The cells that are cleared -/

namespace OpenFile

variable {file : OpenFile} {selection : Selection}

/-- The cells that are cleared, found in the sheet that is shown. -/
theorem clearedCells_eq {sheet : Worksheet} (hsheet : file.book.sheet? file.active = some sheet)
    (hselection : file.selection = some selection) :
    file.clearedCells = match selection.clamped sheet.used with
      | some range => sheet.cells.positions.filter fun a => a ∈ range
      | none => [] := by
  have hok : file.sheet = .ok sheet := Workbook.sheet_eq_ok hsheet
  rw [clearedCells, selected, hok, hselection, Except.ok_bind, Option.bind_some]
  cases selection.clamped sheet.used <;> rfl

/-- The cells that are cleared are those in the rectangle of the selection that are not empty. -/
theorem mem_clearedCells_iff (h : file.content.Sound) (horderly : file.book.Orderly)
    (hselection : file.selection = some selection) {a : Address} :
    a ∈ file.clearedCells ↔ a ∈ selection.range ∧ file.book.cell? file.active a ≠ none := by
  obtain ⟨sheet, hsheet, -⟩ := exists_sheet h
  have hcovered := horderly.covered sheet (Workbook.mem_of_sheet? hsheet)
  rw [clearedCells_eq hsheet hselection, Workbook.cell?_eq_value hsheet]
  by_cases hvalue : sheet.value a = none
  · -- an empty cell is not cleared
    have hposition : a ∉ sheet.cells.positions := by
      rw [Sparse.mem_positions_iff]
      rintro ⟨v, hv⟩
      exact absurd (hvalue.symm.trans hv) nofun
    cases selection.clamped sheet.used <;> simp [hvalue, hposition]
  · have hposition : a ∈ sheet.cells.positions :=
      Sparse.mem_positions_iff.2 (Option.ne_none_iff_exists'.1 hvalue)
    rw [Selection.mem_clamped_iff hcovered hvalue]
    cases selection.clamped sheet.used <;> simp [hvalue, hposition]

/-- No cell is cleared twice. -/
theorem nodup_clearedCells (file : OpenFile) : file.clearedCells.Nodup := by
  rw [clearedCells]
  split
  · exact (Sparse.nodup_positions _).filter _
  · exact List.nodup_nil

/-- Each of the cells that are cleared is counted once. -/
theorem length_clearedCells (h : file.content.Sound) (horderly : file.book.Orderly)
    (hselection : file.selection = some selection) :
    file.clearedCells.length =
      Set.ncard {a | a ∈ selection.range ∧ file.book.cell? file.active a ≠ none} := by
  have hcells : {a | a ∈ selection.range ∧ file.book.cell? file.active a ≠ none} =
      ↑file.clearedCells.toFinset := by
    ext a
    rw [Set.mem_ofPred_eq, ← mem_clearedCells_iff h horderly hselection]
    simp
  rw [hcells, Set.ncard_coe_finset, List.toFinset_card_of_nodup file.nodup_clearedCells]

/-- While no text is being typed, deleting clears the cells and counts them. -/
theorem delete_of_edit_eq_none (h : file.content.Sound) (hedit : file.edit = none) :
    file.delete = (file.writeAll (file.clearedCells.map fun a => (a, none))).map
      fun cleared => (file.clearedCells.length, cleared) := by
  obtain ⟨sheet, -, hok⟩ := exists_sheet h
  have hselected : file.selected =
      .ok (file.selection.bind fun selection => selection.clamped sheet.used) := by
    rw [selected, hok, Except.ok_bind]
  rw [delete, hedit, clearedCells, hselected, hok]
  cases file.selection.bind fun selection => selection.clamped sheet.used with
  | none => rfl
  | some range =>
    simp only [Option.isSome_none, Bool.false_eq_true, if_false, Except.ok_bind]
    cases file.writeAll ((sheet.cells.positions.filter fun a => a ∈ range).map fun a =>
      (a, none)) <;> rfl

end OpenFile

/-! ### Clearing several cells -/

namespace Content

variable {content : Content} {targets : List Address}

/-- The changes that clear cells. -/
def clears (targets : List Address) : List Change :=
  OpenFile.writeChanges (targets.map fun a => (a, none))

theorem clears_cons (a : Address) (targets : List Address) :
    clears (a :: targets) = .write a none :: clears targets := rfl

theorem plain_of_mem_clears {change : Change} (h : change ∈ clears targets) :
    change.movesLines = false ∧ change.takesBack = false := by
  obtain ⟨a, -, rfl⟩ := List.mem_map.1 h
  exact ⟨rfl, rfl⟩

/-- Cells that are cleared are empty, and all others are as they were. -/
theorem cell?_clears (h : content.Sound) (targets : List Address) (name : String) (a : Address) :
    (content.applyAll (clears targets)).book.cell? name a =
      if name = content.active ∧ a ∈ targets then none else content.book.cell? name a := by
  rw [clears, cell?_writeAll h]
  by_cases hname : name = content.active
  · by_cases ha : a ∈ targets
    · have hlookup : ((targets.map fun a => (a, (none : Option CellValue))).reverse).lookup a =
          some none :=
        lookup_eq_some_of_unique (by simpa using ha) (by simp)
      simp [hname, ha, hlookup]
    · have hlookup : ((targets.map fun a => (a, (none : Option CellValue))).reverse).lookup a =
          none :=
        List.lookup_eq_none_iff.2 (by simpa using fun b hb (heq : a = b) => ha (heq ▸ hb))
      simp [hname, ha, hlookup]
  · simp [hname]

/-- Clearing cells leaves the used ranges as they were. -/
theorem used_clears (content : Content) (targets : List Address) (name : String) :
    ((content.applyAll (clears targets)).book.sheet? name).map Worksheet.used =
      (content.book.sheet? name).map Worksheet.used := by
  induction targets generalizing content with
  | nil => rfl
  | cons b targets ih =>
    have hfirst : ((content.apply (.write b none)).book.sheet? name) =
        if name = content.active then (content.book.sheet? name).map (·.put b none)
        else content.book.sheet? name :=
      Workbook.sheet?_update (fun sheet => sheet.name_put b none) _ _ _
    rw [clears_cons, applyAll_cons, ih, hfirst]
    split
    · rw [Option.map_map]
      rfl
    · rfl

/-- Clearing different cells that are not empty is recorded for each, with the value that it had. -/
theorem recordedAll_clears (h : content.Sound) (hnodup : targets.Nodup)
    (hvalues : ∀ a ∈ targets, content.book.cell? content.active a ≠ none) :
    content.recordedAll (clears targets) =
      (targets.map fun a => content.edit a none).reverse := by
  induction targets generalizing content with
  | nil => rfl
  | cons b targets ih =>
    obtain ⟨hb, hnodup⟩ := List.nodup_cons.1 hnodup
    -- the cells that are left have the values that they had
    have hkept (a : Address) (ha : a ∈ targets) :
        (content.apply (.write b none)).book.cell? content.active a =
          content.book.cell? content.active a := by
      have hne : b ≠ a := fun heq => hb (heq ▸ ha)
      have hwritten := Workbook.cell?_update_put h.active b none content.active a
      rwa [if_neg fun heq => hne heq.2] at hwritten
    have hrest := ih (h.apply (.write b none)) hnodup fun a ha => by
      rw [show (content.apply (.write b none)).active = content.active from rfl, hkept a ha]
      exact hvalues a (List.mem_cons_of_mem _ ha)
    have hedits : (targets.map fun a => (content.apply (.write b none)).edit a none) =
        targets.map fun a => content.edit a none :=
      List.map_congr_left fun a ha => congrArg (CellEdit.mk content.active a · none) (hkept a ha)
    have hchanges : (content.edit b none).changes = true := by
      obtain ⟨v, hv⟩ := Option.ne_none_iff_exists'.1 (hvalues b List.mem_cons_self)
      rw [CellEdit.changes, edit, hv]
      rfl
    rw [clears_cons, recordedAll, hrest, hedits, recorded, List.filter_cons_of_pos hchanges,
      List.filter_nil, List.map_cons, List.reverse_cons]

end Content

namespace Workbook

/-- Rewinding writes whose cells held the values of another workbook leads to the cells of that
workbook, where the cells that were not written are the same. -/
theorem cell?_rewind {book other : Workbook} {edits : List CellEdit}
    (hedits : ∀ edit ∈ edits, edit.sheet ∈ book.names ∧
      edit.old = other.cell? edit.sheet edit.cell) {name : String} {a : Address}
    (hothers : (∀ edit ∈ edits, ¬ (edit.sheet = name ∧ edit.cell = a)) →
      book.cell? name a = other.cell? name a) :
    (book.rewind edits).cell? name a = other.cell? name a := by
  induction edits generalizing book with
  | nil => exact hothers fun _ hmem => absurd hmem List.not_mem_nil
  | cons edit edits ih =>
    obtain ⟨hsheet, hold⟩ := hedits edit List.mem_cons_self
    rw [rewind_cons]
    -- the cell that is taken back has the value of the other workbook from now on
    refine ih (fun other hmem => ?_) fun hrest => ?_
    · rw [names_takeBack]
      exact hedits other (List.mem_cons_of_mem _ hmem)
    · rw [cell?_takeBack hsheet]
      split
      · rename_i hwritten
        rw [hold, hwritten.1, hwritten.2]
      · rename_i hwritten
        refine hothers fun other hmem heq => ?_
        rcases List.mem_cons.1 hmem with rfl | hmem
        · exact hwritten ⟨heq.1.symm, heq.2⟩
        · exact hrest other hmem heq

end Workbook

/-! ### Deleting -/

namespace OpenFile

variable {file after : OpenFile} {selection : Selection}

/-- An open file after the cells of a range of the sheet that is shown were cleared. -/
structure Clears (file : OpenFile) (range : CellRange) (after : OpenFile) : Prop where
  /-- The cells of the range are empty, and all others are as they were. -/
  cells : ∀ name a, after.book.cell? name a =
    if name = file.active ∧ a ∈ range then none else file.book.cell? name a
  /-- The used ranges are as they were. -/
  used : ∀ name, (after.book.sheet? name).map Worksheet.used =
    (file.book.sheet? name).map Worksheet.used

theorem clears_of_clearedCells (h : file.content.Sound) (horderly : file.book.Orderly)
    (hselection : file.selection = some selection)
    (hafter : after.content = file.content.applyAll (Content.clears file.clearedCells)) :
    file.Clears selection.range after := by
  refine ⟨fun name a => ?_, fun name => ?_⟩
  · have hcells : after.book.cell? name a =
        if name = file.active ∧ a ∈ file.clearedCells then none else file.book.cell? name a := by
      have := Content.cell?_clears h file.clearedCells name a
      rwa [← hafter] at this
    simp only [hcells, mem_clearedCells_iff h horderly hselection]
    -- a cell in the rectangle that is not cleared is empty already
    by_cases hname : name = file.active
    · subst hname
      by_cases hvalue : file.book.cell? file.active a = none <;> simp [hvalue]
    · simp [hname]
  · have hused := file.content.used_clears file.clearedCells name
    rw [← hafter] at hused
    exact hused

end OpenFile

namespace Editor

variable {editor : Editor} {file after : OpenFile} {selection : Selection}

/-- When cells that were not empty have been cleared, as many undos restore the cells. -/
theorem undos_restore_clears (h : file.content.Sound) {targets : List Address}
    (hnodup : targets.Nodup) (hvalues : ∀ a ∈ targets, file.book.cell? file.active a ≠ none)
    (hafter : after.content = file.content.applyAll (Content.clears targets))
    (hopen : editor.file = some after) (hle : targets.length ≤ 1000) :
    (∀ i < targets.length, ((editor.after (List.replicate i (.command .undo))).perform
        (.command .undo)).1 = .ok (.flag true)) ∧
      ∃ restored,
        (editor.after (List.replicate targets.length (.command .undo))).file = some restored ∧
        ∀ name a, restored.book.cell? name a = file.book.cell? name a := by
  let edits := (targets.map fun a => file.content.edit a none).reverse
  have hlength : edits.length = targets.length := by simp [edits]
  have hsound : after.content.Sound := hafter ▸ h.applyAll _
  -- all that was recorded is still in the log, in front of what it held before
  have hlogged : after.undo.edits = edits ++ file.undo.edits.take (1000 - targets.length) := by
    have hedits := Content.edits_applyAll h fun change (hmem : change ∈ Content.clears targets) =>
      Content.plain_of_mem_clears hmem
    rw [Content.recordedAll_clears h hnodup hvalues, List.take_append,
      List.take_of_length_le (hlength.trans_le hle), hlength, ← hafter] at hedits
    exact hedits
  obtain ⟨hanswers, restored, hrestored, hbook⟩ := after_undos hopen hsound hlogged
  rw [hlength] at hanswers hrestored
  refine ⟨hanswers, restored, hrestored, fun name a => ?_⟩
  have hnames : after.book.names = file.book.names := by
    have := Content.names_applyAll file.content (Content.clears targets)
    rwa [← hafter] at this
  rw [hbook]
  refine Workbook.cell?_rewind (fun edit hmem => ?_) fun hothers => ?_
  · obtain ⟨b, -, rfl⟩ := List.mem_map.1 (List.mem_reverse.1 hmem)
    exact ⟨hnames ▸ h.active, rfl⟩
  · -- a cell that no record names was not cleared
    have hcells := Content.cell?_clears h targets name a
    rw [← hafter] at hcells
    refine hcells.trans (if_neg fun hcleared => ?_)
    refine hothers (file.content.edit a none) ?_ ⟨hcleared.1.symm, rfl⟩
    exact List.mem_reverse.2 (List.mem_map.2 ⟨a, hcleared.2, rfl⟩)

/-- Deleting clears the selected cells: those of the sheet that is shown that lie in the rectangle
of the selection and are not empty. They are counted, no other cell and no used range is changed,
and as many undos, if the log holds as many writes, restore the cells of every sheet. To cut the
selection back loses none of these cells and adds no other, and there is none if nothing is left. -/
theorem delete_clears_selection (reached : Reachable editor) (hfile : editor.file = some file)
    (hselection : file.selection = some selection) (hedit : file.edit = none) :
    let count := Set.ncard {a | a ∈ selection.range ∧ file.book.cell? file.active a ≠ none}
    let deleted := (editor.perform (.command .delete)).2
    ∃ sheet after, file.book.sheet? file.active = some sheet ∧
      editor.perform (.command .delete) =
        (.ok (.count count), { editor with file := some after }) ∧
      file.Clears selection.range after ∧
      (count ≤ 1000 →
        (∀ i < count, ((deleted.after (List.replicate i (.command .undo))).perform
          (.command .undo)).1 = .ok (.flag true)) ∧
          ∃ restored,
            (deleted.after (List.replicate count (.command .undo))).file = some restored ∧
            ∀ name a, restored.book.cell? name a = file.book.cell? name a) ∧
      (∀ a, sheet.value a ≠ none → (a ∈ selection.range ↔
        ∃ range, selection.clamped sheet.used = some range ∧ a ∈ range)) ∧
      (selection.clamped sheet.used = none → ∀ a ∈ selection.range, sheet.value a = none) := by
  intro count deleted
  have hsound := reached.sound hfile
  have horderly := reached.orderly hfile
  obtain ⟨sheet, hsheet, -⟩ := OpenFile.exists_sheet hsound
  have hcovered := horderly.covered sheet (Workbook.mem_of_sheet? hsheet)
  have hmem (a : Address) := OpenFile.mem_clearedCells_iff hsound horderly hselection (a := a)
  have hcount : file.clearedCells.length = count :=
    OpenFile.length_clearedCells hsound horderly hselection
  obtain ⟨after, hwritten, hcontent⟩ := OpenFile.writeAll_content hsound
    (file.clearedCells.map fun a => (a, none))
  -- nothing is typed, so deleting is writing nothing into the cells that are cleared
  have hperform : editor.perform (.command .delete) =
      (.ok (.count count), { editor with file := some after }) := by
    simp only [perform, performCommand, withFile, hfile,
      OpenFile.delete_of_edit_eq_none hsound hedit, hwritten, ← hcount]
    rfl
  have hdeleted : deleted.file = some after := congrArg (·.2.file) hperform
  refine ⟨sheet, after, hsheet, hperform,
    OpenFile.clears_of_clearedCells hsound horderly hselection hcontent, fun hle => ?_,
    fun a ha => Selection.mem_clamped_iff hcovered ha selection, fun hnone a ha => ?_⟩
  · rw [← hcount] at hle ⊢
    exact undos_restore_clears hsound file.nodup_clearedCells (fun a ha => ((hmem a).1 ha).2)
      hcontent hdeleted hle
  · by_contra hvalue
    obtain ⟨range, hrange, -⟩ := (Selection.mem_clamped_iff hcovered hvalue selection).1 ha
    rw [hnone] at hrange
    cases hrange

/-- Two of three cells are in the column that is selected. -/
def columnSelected : Editor :=
  newFile.after [.write ⟨0, 0⟩ (some (.number 5)), .write ⟨2, 1⟩ (some (.text "a")),
    .write ⟨4, 1⟩ (some (.boolean true)), .command (.selectLine .column 1)]

/-- These two are cleared, and two undos bring them back. -/
theorem delete_clears_column :
    ∃ file after restored, columnSelected.file = some file ∧
      columnSelected.perform (.command .delete) =
        (.ok (.count 2), { columnSelected with file := some after }) ∧
      file.Clears (Selection.entireColumn 1).range after ∧
      ((columnSelected.perform (.command .delete)).2.after
        (List.replicate 2 (.command .undo))).file = some restored ∧
      ∀ name a, restored.book.cell? name a = file.book.cell? name a := by
  have hopen : columnSelected.file.isSome = true := by decide +kernel
  have hfile := (Option.some_get hopen).symm
  have hselection : (columnSelected.file.get hopen).selection = some (.entireColumn 1) := by
    decide +kernel +revert
  have hanswer : (columnSelected.perform (.command .delete)).1 = .ok (.count 2) := rfl
  obtain ⟨sheet, after, -, hperform, hclears, hundos, -⟩ :=
    delete_clears_selection (newFile_reachable.of_after _) hfile hselection
      (by decide +kernel +revert)
  have hcount := Answer.count.inj (Except.ok.inj ((congrArg Prod.fst hperform).symm.trans hanswer))
  rw [hcount] at hperform hundos
  obtain ⟨-, restored, hrestored, hsame⟩ := hundos (by decide)
  exact ⟨_, after, restored, hfile, hperform, hclears, hrestored, hsame⟩

end Editor

end EnsembleDesk

import EnsembleDesk.Proofs.Session.Opening
/-!
# Undoing as many writes as were recorded

A run writes cells in many ways: typed texts are committed, selected cells are cleared, rows are
pasted, values are written by the host. `Editor.recordedThrough` lists the records of the writes
among them that changed their cells, the last one first. The undo log after the run is what was
recorded, in front of what the log held before, cut back to a thousand writes
(`Editor.edits_through`), and to rewind the workbook by what was recorded leads back to the cells
before the run (`Content.rewind_applyAll`).

## Main results

* `Editor.undo_restores_cells`: as many undos as writes were recorded, each of which takes one back,
  restore every cell of every sheet.
-/

namespace EnsembleDesk

namespace Content

/-- The record of a change: that of a write that changes its cell. -/
def recorded (content : Content) : Change → List CellEdit
  | .write a value => [content.edit a value].filter CellEdit.changes
  | _ => []

/-- The records of changes that are made in order, the last one first. -/
def recordedAll (content : Content) : List Change → List CellEdit
  | [] => []
  | change :: changes => (content.apply change).recordedAll changes ++ content.recorded change

variable {content : Content}

/-- Cutting a list back before something is put in front of it makes no difference. -/
theorem take_append_take {α : Type} (n : Nat) (front rest : List α) :
    (front ++ rest.take n).take n = (front ++ rest).take n := by
  rw [List.take_append, List.take_take, Nat.min_eq_left (Nat.sub_le n _), ← List.take_append]

theorem edits_push (log : UndoLog) (edit : CellEdit) (h : log.length ≤ log.limit) :
    (log.push edit).edits = ([edit].filter CellEdit.changes ++ log.edits).take log.limit := by
  rw [UndoLog.push]
  split
  · rename_i hchanges
    rw [List.filter_cons_of_pos hchanges]
    rfl
  · rename_i hchanges
    rw [List.filter_cons_of_neg hchanges]
    exact (List.take_of_length_le h).symm

/-- A change that takes nothing back puts its record in front of the log. -/
theorem edits_apply (h : content.Sound) {change : Change} (hmoves : change.movesLines = false)
    (htakes : change.takesBack = false) :
    (content.apply change).undo.edits =
      (content.recorded change ++ content.undo.edits).take 1000 := by
  -- the log that is kept as it is needs no cutting back
  have hkept : content.undo.edits = content.undo.edits.take 1000 :=
    (List.take_of_length_le h.length_le).symm
  cases change with
  | write a value =>
    have := edits_push content.undo (content.edit a value) (h.limit.symm ▸ h.length_le)
    rwa [h.limit] at this
  | present name view =>
    rw [apply]
    split
    · exact hkept
    · exact hkept
  | insertLine axis i => cases hmoves
  | deleteLine axis i => cases hmoves
  | takeBack => cases htakes
  | cover range => exact hkept
  | resize axis i size => exact hkept
  | save => exact hkept

/-- Rewinding by the record of a change leads back to the cells before it. -/
theorem rewind_apply (h : content.Sound) {change : Change} (hmoves : change.movesLines = false)
    (htakes : change.takesBack = false) :
    ((content.apply change).book.rewind (content.recorded change)).Alike content.book := by
  cases change with
  | write a value =>
    rw [recorded]
    cases hchanges : (content.edit a value).changes with
    | true =>
      rw [List.filter_cons_of_pos hchanges]
      exact takeBack_write h a value
    | false =>
      -- the write is not recorded, but the cell holds the same value as before
      rw [List.filter_cons_of_neg (by rw [hchanges]; exact Bool.false_ne_true)]
      exact alike_write_of_not_changes h hchanges
  | present name view =>
    rw [apply]
    split
    · exact .update_of_cells (fun sheet => name_resized sheet view) (fun _ => rfl) _ _
    · exact .refl _
  | insertLine axis i => cases hmoves
  | deleteLine axis i => cases hmoves
  | takeBack => cases htakes
  | cover range =>
    exact .update_of_cells (fun sheet => Worksheet.name_cover sheet range) (fun _ => rfl) _ _
  | resize axis i size =>
    exact .update_of_cells (fun sheet => Worksheet.name_mapSizes sheet axis _)
      (fun sheet => Worksheet.cells_mapSizes sheet axis _) _ _
  | save => exact .refl _

section Run

variable {changes : List Change}

/-- The log after changes that take nothing back. -/
theorem edits_applyAll (h : content.Sound)
    (hchanges : ∀ change ∈ changes, change.movesLines = false ∧ change.takesBack = false) :
    (content.applyAll changes).undo.edits =
      (content.recordedAll changes ++ content.undo.edits).take 1000 := by
  induction changes generalizing content with
  | nil => exact (List.take_of_length_le h.length_le).symm
  | cons change changes ih =>
    obtain ⟨hmoves, htakes⟩ := hchanges change List.mem_cons_self
    rw [applyAll_cons, recordedAll, List.append_assoc,
      ih (h.apply change) fun other hmem => hchanges other (List.mem_cons_of_mem _ hmem),
      edits_apply h hmoves htakes]
    -- what the first step cut off would be cut off in the end
    rw [take_append_take]

/-- Rewinding by what was recorded leads back to the cells before the changes. -/
theorem rewind_applyAll (h : content.Sound)
    (hchanges : ∀ change ∈ changes, change.movesLines = false ∧ change.takesBack = false) :
    ((content.applyAll changes).book.rewind (content.recordedAll changes)).Alike content.book := by
  induction changes generalizing content with
  | nil => exact .refl _
  | cons change changes ih =>
    obtain ⟨hmoves, htakes⟩ := hchanges change List.mem_cons_self
    have hrest := ih (h.apply change) fun other hmem => hchanges other (List.mem_cons_of_mem _ hmem)
    rw [applyAll_cons, recordedAll, Workbook.rewind_append]
    -- the later records are rewound first, and lead to where the first change left off
    exact (hrest.rewind _).trans (rewind_apply h hmoves htakes)

end Run

end Content

namespace Editor

/-- The records of the writes that events make and that change their cells, the last one first. -/
def recordedThrough (editor : Editor) (events : List Event) : List CellEdit :=
  match editor.file with
  | some file => file.content.recordedAll (editor.changesThrough events)
  | none => []

variable {editor : Editor} {file : OpenFile} {events : List Event}

theorem plain_of_mem_changesThrough (editor : Editor)
    (hevents : ∀ operation, .perform operation ∈ events →
      operation.movesLines = false ∧ operation.takesBack = false) :
    ∀ change ∈ editor.changesThrough events,
      change.movesLines = false ∧ change.takesBack = false := by
  intro change hmem
  obtain ⟨operation, hoperation, hcomes⟩ := comesOf_of_mem_changesThrough hmem
  obtain ⟨hmoves, htakes⟩ := hevents operation hoperation
  exact ⟨hcomes.movesLines hmoves, hcomes.takesBack htakes⟩

/-- The undo log after events that take nothing back: what they recorded, in front of what the log
held before, cut back to a thousand writes. -/
theorem edits_through (reached : Reachable editor) (hfile : editor.file = some file)
    (hevents : ∀ operation, .perform operation ∈ events → operation.replacesFile = false ∧
      operation.movesLines = false ∧ operation.takesBack = false) :
    ∃ after, (editor.through events).file = some after ∧
      after.undo.edits = (editor.recordedThrough events ++ file.undo.edits).take 1000 := by
  have hsound := reached.sound hfile
  obtain ⟨after, hafter, hcontent⟩ := content_through hfile hsound fun operation hmem =>
    (hevents operation hmem).1
  have hedits := Content.edits_applyAll hsound
    (plain_of_mem_changesThrough editor fun operation hmem => (hevents operation hmem).2)
  refine ⟨after, hafter, ?_⟩
  rw [recordedThrough, hfile]
  rw [← hcontent] at hedits
  exact hedits

/-! ### Undoing -/

/-- An undo takes the last recorded write back. -/
theorem perform_undo (hfile : editor.file = some file) (h : file.content.Sound) {edit : CellEdit}
    {edits : List CellEdit} (hedits : file.undo.edits = edit :: edits) :
    ∃ after,
      editor.perform (.command .undo) = (.ok (.flag true), { editor with file := some after }) ∧
      after.content.Sound ∧ after.undo.edits = edits ∧ after.book = file.book.takeBack edit := by
  have htaken := OpenFile.takeBack_of_cons hedits (h.edits edit (hedits ▸ List.mem_cons_self))
  refine ⟨{ file with
    edit := none, undo := { file.undo with edits }, book := file.book.takeBack edit },
    ?_, ?_, rfl, rfl⟩
  · simp only [perform, performCommand, withFile, hfile, htaken]
    rfl
  · obtain ⟨result, hok, hcontent⟩ := OpenFile.takeBack_content h
    rw [htaken] at hok
    cases hok
    exact hcontent ▸ h.applyAll [.takeBack]

/-- Undos take the writes at the front of the log back, one each. -/
theorem after_undos (hfile : editor.file = some file) (h : file.content.Sound)
    {front rest : List CellEdit} (hedits : file.undo.edits = front ++ rest) :
    (∀ i < front.length,
      ((editor.after (List.replicate i (.command .undo))).perform (.command .undo)).1 =
        .ok (.flag true)) ∧
      ∃ after, (editor.after (List.replicate front.length (.command .undo))).file = some after ∧
        after.book = file.book.rewind front := by
  induction front generalizing editor file with
  | nil => exact ⟨fun i hi => absurd hi (Nat.not_lt_zero i), file, hfile, rfl⟩
  | cons edit front ih =>
    obtain ⟨next, hundo, hsound, hnext, hbook⟩ := perform_undo hfile h hedits
    have hundone : (editor.perform (.command .undo)).2.file = some next := by rw [hundo]
    obtain ⟨hanswers, after, hafter, hrewound⟩ := ih hundone hsound hnext
    refine ⟨fun i hi => ?_, after, hafter, by rw [hrewound, hbook, Workbook.rewind_cons]⟩
    -- the first undo answers here, the others after the workbook was taken back by one write
    cases i with
    | zero => rw [List.replicate_zero, after_nil, hundo]
    | succ i => exact hanswers i (Nat.lt_of_succ_lt_succ hi)

/-- As many undos as writes were recorded, each of which takes one back, restore every cell of every
sheet, whatever the writes were made by. -/
theorem undo_restores_cells (reached : Reachable editor) (hfile : editor.file = some file)
    (hfinite : file.book.FiniteCells) (events : List Event)
    (hevents : ∀ operation, .perform operation ∈ events → operation.replacesFile = false ∧
      operation.movesLines = false ∧ operation.takesBack = false)
    (hcount : (editor.recordedThrough events).length ≤ 1000) :
    (∀ i < (editor.recordedThrough events).length,
      (((editor.through events).after (List.replicate i (.command .undo))).perform
        (.command .undo)).1 = .ok (.flag true)) ∧
      ∃ restored, ((editor.through events).after
          (List.replicate (editor.recordedThrough events).length (.command .undo))).file =
            some restored ∧
        restored.book.SameCells file.book := by
  have hsound := reached.sound hfile
  obtain ⟨after, hafter, hcontent⟩ := content_through hfile hsound fun operation hmem =>
    (hevents operation hmem).1
  obtain ⟨logged, hlogged, hedits⟩ := edits_through reached hfile hevents
  obtain rfl : logged = after := Option.some.inj (hlogged.symm.trans hafter)
  -- with at most a thousand records, nothing that the run recorded is cut off
  rw [List.take_append, List.take_of_length_le hcount] at hedits
  obtain ⟨hanswers, restored, hrestored, hbook⟩ :=
    after_undos hafter (hcontent ▸ hsound.applyAll _) hedits
  refine ⟨hanswers, restored, hrestored, ?_⟩
  -- the undos rewind the workbook, and rewinding leads back to the cells before the run
  have halike := Content.rewind_applyAll hsound
    (plain_of_mem_changesThrough editor fun operation hmem => (hevents operation hmem).2)
  rw [hbook]
  rw [← hcontent] at halike
  have hrecorded : editor.recordedThrough events =
      file.content.recordedAll (editor.changesThrough events) := by rw [recordedThrough, hfile]
  rw [hrecorded]
  exact halike.sameCells hfinite

/-- A number is written into a cell, a text is typed over it, and the cell is cleared. -/
def overwriting : List Event :=
  [.perform (.write ⟨.first, .first⟩ (some (.number 5))),
    .perform (.command (.pointerDown ⟨.first, .first⟩ false)),
    .perform (.command (.typeChar '7')),
    .perform (.command .commitEdit),
    .perform (.command .delete)]

/-- Typing empties the cell first, which is a write of its own: there are four to be undone. -/
theorem undo_restores_overwritten_cell :
    ∃ file restored, newFile.file = some file ∧
      ((newFile.through overwriting).after (List.replicate 4 (.command .undo))).file =
        some restored ∧
      restored.book.SameCells file.book := by
  have hopen : newFile.file.isSome = true := by decide +kernel
  have hfile := (Option.some_get hopen).symm
  have hcount : (newFile.recordedThrough overwriting).length = 4 := by decide +kernel
  have hfinite : (newFile.file.get hopen).book.FiniteCells :=
    Workbook.finiteCells_of_entries (by decide +kernel +revert)
  obtain ⟨-, restored, hrestored, hsame⟩ := undo_restores_cells newFile_reachable hfile hfinite
    overwriting (by
      intro operation hmem
      simp only [overwriting, List.mem_cons, Event.perform.injEq, List.not_mem_nil,
        or_false] at hmem
      rcases hmem with rfl | rfl | rfl | rfl | rfl <;> exact ⟨rfl, rfl, rfl⟩)
    (by rw [hcount]; decide)
  rw [hcount] at hrestored
  exact ⟨_, restored, hfile, hrestored, hsame⟩

end Editor

end EnsembleDesk

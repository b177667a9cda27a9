import EnsembleDesk.Proofs.Session.Opening
/-!
# Clean editors

Whether something is unsaved is told from two things: the position of the save point in the undo
log, and a mark for what the log does not record. `Content.LeadsTo` says what makes them reliable:
unless the content is marked, rewinding its workbook to the save point, if there still is one, leads
to the workbook that was kept. Every elementary change keeps this (`Content.LeadsTo.apply`): for the
log it is `UndoLog.LeadsTo`, of workbooks. Saving starts it anew.

## Main results

* `Editor.sameCells_of_clean`: in an editor that is clean, the cells of every sheet are those of the
  workbook as it was last opened or saved.
-/

namespace EnsembleDesk

namespace Content

/-- Rewinding the workbook to the save point leads to the one that was kept. Nothing is said when
the content is marked as changed in another way, or when the save point cannot be reached. -/
def LeadsTo (content : Content) (kept : Workbook) : Prop :=
  content.restructured = false → ∀ saved, content.undo.saved = some saved →
    saved ≤ content.undo.length →
      (content.book.rewind (content.undo.edits.take (content.undo.length - saved))).Alike kept

variable {content : Content} {kept : Workbook}

/-- At the save point, the workbook is the one that is kept. -/
theorem leadsTo_self (h : content.undo.saved = some content.undo.length) :
    content.LeadsTo content.book :=
  fun _ => UndoLog.leadsTo_self Workbook.rewinds h content.book

namespace LeadsTo

/-- A change of the workbook that gives one that is alike. -/
theorem of_alike (h : content.LeadsTo kept) {book : Workbook} (hbook : book.Alike content.book)
    (active : String) : LeadsTo ⟨book, active, content.undo, content.restructured⟩ kept :=
  fun hmark => UndoLog.LeadsTo.of_alike (h hmark) Workbook.rewinds hbook

/-- A write, whether it is recorded or not. -/
theorem write (h : content.LeadsTo kept) (hsound : content.Sound) (a : Address)
    (value : Option CellValue) : (content.apply (.write a value)).LeadsTo kept :=
  fun hmark => UndoLog.LeadsTo.push (h hmark) Workbook.rewinds
    (hsound.limit.symm ▸ hsound.length_le) (fun _ => takeBack_write hsound a value)
    fun hchanges => alike_write_of_not_changes hsound hchanges

/-- An elementary change, other than saving, keeps where the undo log leads. -/
theorem apply (h : content.LeadsTo kept) (hsound : content.Sound) {change : Change}
    (hsaves : change.saves = false) : (content.apply change).LeadsTo kept := by
  cases change with
  | write a value => exact h.write hsound a value
  | cover range =>
    exact h.of_alike
      (.update_of_cells (fun sheet => Worksheet.name_cover sheet range) (fun _ => rfl) _ _) _
  | insertLine axis i => exact fun hmark => nomatch hmark
  | deleteLine axis i => exact fun hmark => nomatch hmark
  | resize axis i size => exact fun hmark => nomatch hmark
  | present name view =>
    rw [Content.apply]
    split
    · exact h.of_alike
        (.update_of_cells (fun sheet => name_resized sheet view) (fun _ => rfl) _ _) name
    · exact h
  | takeBack =>
    rw [Content.apply]
    split
    · exact h
    · rename_i hpop
      exact fun hmark => UndoLog.LeadsTo.pop (h hmark) hpop
  | save => cases hsaves

/-- Changes other than saving go on to lead back to the workbook that was kept. -/
theorem applyAll (h : content.LeadsTo kept) (hsound : content.Sound) {changes : List Change}
    (hsaves : ∀ change ∈ changes, change.saves = false) :
    (content.applyAll changes).LeadsTo kept := by
  induction changes generalizing content with
  | nil => exact h
  | cons change changes ih =>
    exact ih (h.apply hsound (hsaves change List.mem_cons_self)) (hsound.apply change)
      fun other hmem => hsaves other (List.mem_cons_of_mem _ hmem)

/-- A content that is clean has the cells that were kept. -/
theorem alike_of_clean (h : content.LeadsTo kept) (hmark : content.restructured = false)
    (hclean : content.undo.isClean = true) : content.book.Alike kept :=
  UndoLog.LeadsTo.alike_of_isClean (h hmark) hclean

end LeadsTo

end Content

namespace Editor

/-- The workbook that is kept after an event: the one that it has opened or saved, or else the one
that was kept before. -/
def keptOn (editor : Editor) (kept : Option Workbook) : Event → Option Workbook
  | .perform operation =>
    if (operation.opens || operation.saves) && (editor.perform operation).1.isOk then
      (editor.perform operation).2.file.map OpenFile.book
    else kept
  | .provide _ _ => kept

/-- The workbook that is kept after events: the open one as it was last opened or saved. -/
def keptThrough (editor : Editor) (kept : Option Workbook) : List Event → Option Workbook
  | [] => kept
  | event :: events => (editor.on event).keptThrough (editor.keptOn kept event) events

/-- The undo log of the open file leads to the workbook that is kept. -/
def Keeps (editor : Editor) (kept : Option Workbook) : Prop :=
  ∀ file, editor.file = some file →
    file.content.Sound ∧ ∃ book, kept = some book ∧ file.content.LeadsTo book

variable {editor : Editor} {file : OpenFile} {kept : Option Workbook}

/-- A file that was opened or saved is the one that is kept. -/
theorem keptOn_of_ok {operation : Operation}
    (hoperation : (operation.opens || operation.saves) = true) {answer : Answer}
    (hok : (editor.perform operation).1 = .ok answer)
    (hfile : (editor.perform operation).2.file = some file) :
    editor.keptOn kept (.perform operation) = some file.book := by
  rw [keptOn, hoperation, hok, hfile]
  rfl

/-- An operation that is refused keeps no other workbook. -/
theorem keptOn_of_error (operation : Operation) {error : GridError}
    (herror : (editor.perform operation).1 = .error error) :
    editor.keptOn kept (.perform operation) = kept := by
  rw [keptOn, herror]
  exact if_neg (by simp [Except.isOk, Except.toBool])

/-- A file that was just opened is the one that is kept. -/
theorem Keeps.of_openFile (editor : Editor) {path : String} {view : Option FileView}
    {answer : Answer} (h : (editor.perform (.openFile path view)).1 = .ok answer)
    (kept : Option Workbook) :
    (editor.on (.perform (.openFile path view))).Keeps
      (editor.keptOn kept (.perform (.openFile path view))) := by
  intro file hfile
  rcases openFile_cases editor path view with
    ⟨book, opened, visible, saved, -, hopened, hvisible, hcontent⟩ | ⟨error, hrefused⟩
  · rw [on, perform, hopened] at hfile
    obtain rfl := Option.some.inj hfile
    have hsound := (Content.Sound.fresh hvisible).apply (.present visible saved)
    have hsaved := congrArg Content.undo hcontent
    rw [Content.apply_present _ hvisible] at hsaved
    refine ⟨hcontent ▸ hsound, opened.book, ?_, Content.leadsTo_self ?_⟩
    · exact keptOn_of_ok rfl h (by rw [perform, hopened])
    · rw [hsaved]
      rfl
  · rw [perform, hrefused] at h
    cases h

/-- Saving keeps the workbook as it is then. -/
theorem Keeps.save (h : editor.Keeps kept) :
    (editor.on (.perform .save)).Keeps (editor.keptOn kept (.perform .save)) := by
  intro after hafter
  cases hfile : editor.file with
  | none =>
    rw [on, file_perform_of_none hfile rfl] at hafter
    cases hafter
  | some file =>
    obtain ⟨hsound, book, hkept, hleads⟩ := h file hfile
    have hcommitted := hsound.applyAll file.commitChanges
    rcases save_cases hfile hsound with
      ⟨-, answer, saved, hok, hsaved, hcontent⟩ | ⟨-, error, refused, herror, hrefused, hcontent⟩
    · obtain rfl := Option.some.inj (hafter.symm.trans hsaved)
      refine ⟨hcontent ▸ hcommitted.apply .save, after.book, ?_, Content.leadsTo_self ?_⟩
      · exact keptOn_of_ok rfl hok hafter
      · rw [hcontent]
        rfl
    -- a save that could not be written has ended the typing all the same
    · obtain rfl := Option.some.inj (hafter.symm.trans hrefused)
      rw [keptOn_of_error .save herror, hcontent]
      refine ⟨hcommitted, book, hkept, hleads.applyAll hsound fun change hmem => ?_⟩
      exact (Change.ComesOf.of_writes (writes_of_mem_commitChanges hmem) .close).saves rfl

/-- After an event, the undo log leads to the workbook that is kept then. -/
theorem Keeps.on (h : editor.Keeps kept) (event : Event) :
    (editor.on event).Keeps (editor.keptOn kept event) := by
  cases event with
  | provide store clipboard => exact h
  | perform operation =>
    cases hreplaces : operation.replacesFile with
    | true =>
      cases operation with
      -- opening keeps the file that is opened, and a refused one leaves all as it was
      | openFile path view =>
        rcases openFile_cases editor path view with
          ⟨book, file, visible, saved, -, hopened, -, -⟩ | ⟨error, hrefused⟩
        · exact .of_openFile editor (congrArg Prod.fst hopened) kept
        · rw [keptOn_of_error (.openFile path view) (congrArg Prod.fst hrefused),
            Editor.on, perform, hrefused]
          exact h
      | close =>
        intro file hfile
        cases hfile
      | _ => cases hreplaces
    | false =>
      -- saving keeps the workbook as it is then; the changes of all else lead back to the kept one
      cases hsaves : operation.saves with
      | true =>
        cases operation with
        | save => exact h.save
        | _ => cases hsaves
      | false =>
        have hkept : editor.keptOn kept (.perform operation) = kept := by
          rw [keptOn, hsaves, Operation.opens_of_replacesFile hreplaces]
          rfl
        intro after hafter
        cases hfile : editor.file with
        | none =>
          rw [Editor.on, file_perform_of_none hfile hreplaces] at hafter
          cases hafter
        | some file =>
          obtain ⟨hsound, book, hbook, hleads⟩ := h file hfile
          obtain ⟨changed, hchanged, hcontent⟩ := content_on hfile hsound
            (.perform operation) fun other hother => by cases hother; exact hreplaces
          obtain rfl := Option.some.inj (hafter.symm.trans hchanged)
          rw [hkept, hcontent]
          refine ⟨hsound.applyAll _, book, hbook, hleads.applyAll hsound fun change hmem => ?_⟩
          rw [eventChanges, hfile] at hmem
          exact (comesOf_of_mem_changes hmem).saves hsaves

/-- By induction over a run: the undo log goes on to lead to the workbook that is kept. -/
theorem Keeps.through (h : editor.Keeps kept) (events : List Event) :
    (editor.through events).Keeps (editor.keptThrough kept events) := by
  induction events generalizing editor kept with
  | nil => exact h
  | cons event events ih => exact ih (h.on event)

/-- In an editor that is clean, the cells of every sheet are those of the workbook as it was last
opened or saved. -/
theorem sameCells_of_clean (editor : Editor) {path : String} {view : Option FileView}
    {answer : Answer}
    (hopen : (editor.perform (.openFile path view)).1 = .ok answer) (events : List Event)
    (hfile : (editor.through (.perform (.openFile path view) :: events)).file = some file)
    (hclean : (editor.through (.perform (.openFile path view) :: events)).isDirty = false) :
    ∃ book, editor.keptThrough none (.perform (.openFile path view) :: events) = some book ∧
      (book.FiniteCells → file.book.SameCells book) := by
  obtain ⟨-, book, hkept, hleads⟩ := (Keeps.of_openFile editor hopen none).through events file hfile
  simp only [isDirty, hfile, OpenFile.isDirty, Bool.or_eq_false_iff, Bool.not_eq_false'] at hclean
  exact ⟨book, hkept, fun hfinite => (hleads.alike_of_clean hclean.1 hclean.2).sameCells hfinite⟩

/-- A cell is written and saved, and another write of it is undone. -/
def backToSaved : List Event :=
  [.perform (.openFile "plan.csv" none),
    .perform (.write ⟨.first, .first⟩ (some (.number 5))),
    .perform .save,
    .perform (.write ⟨.first, .first⟩ (some (.number 7))),
    .perform (.command .undo)]

/-- After that, the editor is clean and holds the cells that were saved. -/
theorem sameCells_backToSaved :
    ∃ file book, (through {} backToSaved).file = some file ∧
      keptThrough {} none backToSaved = some book ∧ file.book.SameCells book := by
  have hopen : (through {} backToSaved).file.isSome = true := by decide +kernel
  have hfile := (Option.some_get hopen).symm
  have hopened : (perform {} (.openFile "plan.csv" none)).1 = .ok .done := rfl
  obtain ⟨book, hkept, hsame⟩ :=
    sameCells_of_clean {} hopened backToSaved.tail hfile (by decide +kernel)
  have hall : ∀ book ∈ keptThrough {} none backToSaved,
      ∀ sheet ∈ book.sheets, ∀ cell ∈ sheet.cells.entries, cell.2.IsFinite := by decide +kernel
  exact ⟨_, book, hfile, hkept, hsame (Workbook.finiteCells_of_entries (hall book hkept))⟩

end Editor

end EnsembleDesk

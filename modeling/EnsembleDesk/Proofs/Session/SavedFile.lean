import EnsembleDesk.Proofs.Book.JsonNumbers
import EnsembleDesk.Proofs.Session.Reopening
/-!
# Which saved files can be read

Saving does not ask whether what it writes can be read: the workbook is written as it is. A cell may
be written at any address and with any number, and a range that is pasted or a line that is inserted
may bring cells to the last line, which is no line of its own in a file. So a save of a JSON file
that succeeds may leave a file that no editor opens again. Nothing else goes wrong: without a cell
on the last line and without a number that is not finite the file is read, with the same cells in
the same sheets, whatever the numbers are read as.

## Main results

* `Editor.saved_file_read_iff`: which files that were saved can be read, and what is read of them;
* `Editor.saved_file_not_always_read`: a text on the last row is saved and not read again.
-/

namespace EnsembleDesk

namespace Editor

variable {editor saved : Editor} {answer : Answer} {file : OpenFile}

/-- A save of a JSON file leaves the written workbook in the store. The workbook is one of a
reachable state, so its sheets have names of their own and each used range spans the cells. -/
theorem content_of_save (reached : Reachable editor)
    (hsave : editor.perform .save = (.ok answer, saved)) (hfile : saved.file = some file)
    (hformat : BookFormat.ofPath file.path = .json) :
    saved.store.content? file.path = some (JsonFile.write file.book) ∧ file.book.Orderly := by
  have hsaved : saved = (editor.perform .save).2 := by rw [hsave]
  have reachedSaved : Reachable saved := hsaved ▸ reached.perform .save
  obtain ⟨_, _, hopen, -, -, hcontent⟩ := save_eq_ok hsave
  rw [hfile] at hopen
  obtain rfl := Option.some.inj hopen
  rw [hformat] at hcontent
  exact ⟨hcontent, reachedSaved.orderly hfile⟩

/-- A JSON file that was saved is read if, and only if, all cells of its sheets hold finite values
and neither a cell nor a used range comes to the last row or column. What is read has the same
sheets, with cells in the same places. -/
theorem saved_file_read_iff (reached : Reachable editor)
    (hsave : editor.perform .save = (.ok answer, saved)) (hfile : saved.file = some file)
    (hformat : BookFormat.ofPath file.path = .json) :
    ∃ bytes, saved.store.content? file.path = some bytes ∧
      ((∃ book, JsonFile.read bytes = .ok book) ↔
        ∀ sheet ∈ file.book.sheets, sheet.Bounded ∧ sheet.CellsFinite) ∧
      ∀ book, JsonFile.read bytes = .ok book → book.placed = file.book.placed := by
  obtain ⟨hcontent, horderly⟩ := content_of_save reached hsave hfile hformat
  exact ⟨_, hcontent, Workbook.read_write_eq_ok_iff horderly,
    fun book hbook => Workbook.placed_of_read_write horderly hbook⟩

/-- A file that is open can be saved if the store can be written. -/
theorem exists_save (reached : Reachable editor) (hopen : editor.file.isSome = true)
    (hwritable : editor.store.writable = true) :
    ∃ answer file, editor.perform .save = (.ok answer, (editor.perform .save).2) ∧
      (editor.perform .save).2.file = some file := by
  have hbefore := (Option.some_get hopen).symm
  obtain ⟨-, answer, after, hanswer, hafter, -⟩ | ⟨hrefused, -⟩ :=
    save_cases hbefore (reached.sound hbefore)
  · exact ⟨answer, after, Prod.ext hanswer rfl, hafter⟩
  · rw [hwritable] at hrefused
    cases hrefused

/-- A new JSON file with one cell. -/
def oneCell (a : Address) (value : CellValue) : Editor :=
  after {} [.openFile "plan.json" none, .write a (some value)]

/-- The state with one cell is reachable and can be saved. -/
theorem save_oneCell (a : Address) (value : CellValue) :
    Reachable (oneCell a value) ∧ ∃ answer file, (oneCell a value).perform .save =
      (.ok answer, ((oneCell a value).perform .save).2) ∧
        ((oneCell a value).perform .save).2.file = some file := by
  have reached : Reachable (oneCell a value) := (Reachable.start {} {} {}).of_after _
  exact ⟨reached, exists_save reached rfl rfl⟩

/-- A text on the last row is saved in a file that is not readable. -/
theorem file_of_save_lastRow :
    ∀ file ∈ ((oneCell ⟨.unbounded, .first⟩ (.text "x")).perform .save).2.file,
      file.path = "plan.json" ∧
        ¬ ∀ sheet ∈ file.book.sheets, sheet.Bounded ∧ sheet.CellsFinite := by
  decide +kernel

/-- The largest number is saved where it is read again, and a text on the last row, where it is
not. -/
theorem saved_file_read_iff_oneCell :
    (∃ bytes book, ((oneCell ⟨.first, .first⟩ (.number 1.7976931348623157e308)).perform
        .save).2.store.content? "plan.json" = some bytes ∧ JsonFile.read bytes = .ok book ∧
      book.placed = [("Sheet1", [⟨.first, .first⟩], some (.single ⟨.first, .first⟩))]) ∧
    ∃ bytes, ((oneCell ⟨.unbounded, .first⟩ (.text "x")).perform .save).2.store.content?
        "plan.json" = some bytes ∧ ¬ ∃ book, JsonFile.read bytes = .ok book := by
  constructor
  · have hknown : ∀ file ∈ ((oneCell ⟨.first, .first⟩
        (.number 1.7976931348623157e308)).perform .save).2.file, file.path = "plan.json" ∧
        (∀ sheet ∈ file.book.sheets, sheet.Bounded ∧ sheet.CellsFinite) ∧
        file.book.placed =
          [("Sheet1", [⟨.first, .first⟩], some (.single ⟨.first, .first⟩))] := by
      decide +kernel
    obtain ⟨reached, answer, file, hsave, hfile⟩ := save_oneCell _ _
    obtain ⟨hpath, hsheets, hplaced⟩ := hknown file hfile
    obtain ⟨bytes, hcontent, hread, hsame⟩ :=
      saved_file_read_iff reached hsave hfile (by rw [hpath]; decide +kernel)
    obtain ⟨book, hbook⟩ := hread.2 hsheets
    exact ⟨bytes, book, hpath ▸ hcontent, hbook, (hsame book hbook).trans hplaced⟩
  · obtain ⟨reached, answer, file, hsave, hfile⟩ := save_oneCell _ _
    obtain ⟨hpath, hsheets⟩ := file_of_save_lastRow file hfile
    obtain ⟨bytes, hcontent, hread, -⟩ :=
      saved_file_read_iff reached hsave hfile (by rw [hpath]; decide +kernel)
    exact ⟨bytes, hpath ▸ hcontent, mt hread.1 hsheets⟩

/-- Not every JSON file that was saved is read with the same sheets and cells in the same places. -/
theorem saved_file_not_always_read :
    ¬ ∀ (editor saved : Editor) (answer : Answer) (file : OpenFile), Reachable editor →
      editor.perform .save = (.ok answer, saved) → saved.file = some file →
      BookFormat.ofPath file.path = .json →
      ∃ bytes book, saved.store.content? file.path = some bytes ∧
        JsonFile.read bytes = .ok book ∧ book.placed = file.book.placed := by
  intro hread
  -- a cell on the last row is written with a number that no address has
  obtain ⟨reached, answer, file, hsave, hfile⟩ :=
    save_oneCell ⟨.unbounded, .first⟩ (.text "x")
  obtain ⟨hpath, hsheets⟩ := file_of_save_lastRow file hfile
  have hformat : BookFormat.ofPath file.path = .json := by
    rw [hpath]
    decide +kernel
  obtain ⟨bytes, book, hbytes, hbook, -⟩ := hread _ _ answer file reached hsave hfile hformat
  obtain ⟨hcontent, horderly⟩ := content_of_save reached hsave hfile hformat
  obtain rfl := Option.some.inj (hcontent.symm.trans hbytes)
  exact hsheets ((Workbook.read_write_eq_ok_iff horderly).1 ⟨book, hbook⟩)

end Editor

end EnsembleDesk

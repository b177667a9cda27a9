import EnsembleDesk.Proofs.Session.Parts
import EnsembleDesk.Proofs.Session.Refusals
import EnsembleDesk.Proofs.Session.SavedFile
/-!
# Sizes of lines in a file

A JSON file holds the sizes that lines have of their own, and not the common ones. A reader begins
with a sheet whose common sizes are its own, `JsonFile.plainSize`, and a line that gets a size equal
to them has none of its own. Opening the file puts the chosen common sizes in their place
afterwards. So where the user chose others, a line that was given the reader's common size comes
back with the chosen one. A size also comes back as the number that its text is read as.

`Worksheet.throughFile` is what becomes of a sheet. Without a view it is all that is left of the
sizes.

## Main results

* `Editor.sizes_of_reopened_file`: which lines of a file that was saved are opened with their sizes;
* `Editor.size_lost_in_file`: a column of the reader's common width is opened with another width.
-/

namespace EnsembleDesk

/-! ### Sheets -/

namespace JsonFile

/-- The size that lines have while a sheet is read. -/
def plainSize : Axis → Binary64
  | .row => 24.0
  | .column => 100.0

/-- An empty sheet has the common sizes that lines have while a sheet is read. -/
theorem common_empty (name : String) (axis : Axis) :
    ((Worksheet.empty name).sizes axis).common = plainSize axis := by
  cases axis <;> rfl

/-- The size that lines have while a sheet is read is no zero, so that only itself counts as the
same. -/
theorem same_plainSize (x : Binary64) (axis : Axis) :
    Scalar.same x (plainSize axis) = true ↔ x = plainSize axis := by
  have hone : 1 ≤ plainSize axis ∧ plainSize axis ≤ plainSize axis := by
    cases axis <;> decide
  rw [Scalar.same, Bool.and_eq_true, decide_eq_true_eq, decide_eq_true_eq]
  constructor
  · rintro ⟨hle, hge⟩
    exact Binary64.eq_of_le_of_le hle hge hone.1
  · rintro rfl
    exact ⟨hone.2, hone.2⟩

/-- While a sheet is read, the sizes of its lines are set one by one in a sheet that has none. -/
theorem sizes_reading {sheet : Worksheet} (axis : Axis)
    (h : ∀ i x, (sheet.sizes axis).own.get? i = some x → x.isFinite = true) :
    (reading sheet).sizes axis =
      ((Worksheet.empty sheet.name).sizes axis).setAll (sheet.sizes axis).own.entries := by
  cases axis with
  | row => exact readSizes_sizesJson "hpx" _ h
  | column => exact readSizes_sizesJson "wpx" _ h

end JsonFile

namespace Worksheet

/-- A sheet that was written to a file and read from it, with the common sizes that the user
chose. -/
def throughFile (sheet : Worksheet) (options : GridOptions) : Worksheet :=
  { JsonFile.reading sheet.throughText with
    columns :=
      { (JsonFile.reading sheet.throughText).columns with common := options.common .column }
    rows := { (JsonFile.reading sheet.throughText).rows with common := options.common .row } }

/-- A sheet keeps its name through a file. -/
theorem name_throughFile (sheet : Worksheet) (options : GridOptions) :
    (sheet.throughFile options).name = sheet.name := rfl

/-- A sheet that comes through a file has the common sizes that the user chose. -/
theorem common_throughFile (sheet : Worksheet) (options : GridOptions) (axis : Axis) :
    ((sheet.throughFile options).sizes axis).common = options.common axis := by
  cases axis <;> rfl

/-- The sizes that lines have of their own are finite. -/
def SizesFinite (sheet : Worksheet) : Prop :=
  ∀ axis, ∀ entry ∈ (sheet.sizes axis).own.entries, entry.2.isFinite = true

instance (sheet : Worksheet) : Decidable sheet.SizesFinite :=
  decidable_of_iff ((∀ entry ∈ sheet.rows.own.entries, entry.2.isFinite = true) ∧
      ∀ entry ∈ sheet.columns.own.entries, entry.2.isFinite = true)
    ⟨fun h axis => match axis with
      | .row => h.1
      | .column => h.2, fun h => ⟨h .row, h .column⟩⟩

/-- If the common size is finite as well, every line has a finite size. -/
theorem SizesFinite.isFinite_size {sheet : Worksheet} (h : sheet.SizesFinite) {axis : Axis}
    (hcommon : (sheet.sizes axis).common.isFinite = true) (i : Index) :
    ((sheet.sizes axis).size i).isFinite = true := by
  rw [Sizes.size]
  cases hown : (sheet.sizes axis).own.get? i with
  | none => exact hcommon
  | some size => exact h axis (i, size) (Sparse.get?_eq_some_iff.1 hown)

/-- The size that a line has of its own after the sheet was in a file. -/
theorem get?_own_throughFile {sheet : Worksheet} (h : sheet.SizesFinite) (options : GridOptions)
    (axis : Axis) (i : Index) :
    ((sheet.throughFile options).sizes axis).own.get? i =
      ((sheet.sizes axis).own.get? i).bind fun size =>
        if size.throughText = JsonFile.plainSize axis then none else some size.throughText := by
  have hown : (sheet.throughText.sizes axis).own =
      (sheet.sizes axis).own.map Binary64.throughText := by
    cases axis <;> rfl
  have hfinite : ∀ i x, (sheet.throughText.sizes axis).own.get? i = some x →
      x.isFinite = true := by
    intro i x hx
    rw [hown, Sparse.get?_map] at hx
    obtain ⟨size, hsize, rfl⟩ := Option.map_eq_some_iff.1 hx
    exact size.isFinite_throughText.trans (h axis (i, size) (Sparse.get?_eq_some_iff.1 hsize))
  -- the common sizes that are put in place later leave the others as they are
  have hread : ((sheet.throughFile options).sizes axis).own =
      ((JsonFile.reading sheet.throughText).sizes axis).own := by
    cases axis <;> rfl
  have hempty : ((Worksheet.empty sheet.throughText.name).sizes axis).own.get? i = none := by
    cases axis <;> rfl
  rw [hread, JsonFile.sizes_reading axis hfinite, Sizes.get?_setAll_entries, hown, Sparse.get?_map,
    JsonFile.common_empty, hempty]
  cases (sheet.sizes axis).own.get? i with
  | none => rfl
  | some size =>
    simp only [Option.map_some, Option.bind_some, JsonFile.same_plainSize]

/-- A line comes back with its size if it has none of its own, or one whose text is read as the
size; a size that a reader takes for the common one comes back as the chosen common one. -/
theorem size_throughFile_eq_iff {sheet : Worksheet} (h : sheet.SizesFinite) {options : GridOptions}
    {axis : Axis} (hcommon : (sheet.sizes axis).common = options.common axis) (i : Index) :
    ((sheet.throughFile options).sizes axis).size i = (sheet.sizes axis).size i ↔
      ∀ size, (sheet.sizes axis).own.get? i = some size →
        (if size.throughText = JsonFile.plainSize axis then options.common axis
          else size.throughText) = size := by
  rw [Sizes.size, Sizes.size, get?_own_throughFile h, common_throughFile, hcommon]
  cases (sheet.sizes axis).own.get? i with
  | none => simp
  | some own =>
    simp only [Option.bind_some, Option.getD_some, Option.some.injEq, forall_eq']
    split <;> rfl

end Worksheet

/-! ### Workbooks -/

namespace Workbook

/-- Where names are unique, a sheet is found under its name. -/
theorem sheet?_of_mem {book : Workbook} (h : book.names.Nodup) {sheet : Worksheet}
    (hsheet : sheet ∈ book.sheets) : book.sheet? sheet.name = some sheet := by
  obtain ⟨found, hfound⟩ :=
    mem_names_iff.1 (show sheet.name ∈ book.names from List.mem_map_of_mem hsheet)
  have hname : found.name = sheet.name := by simpa using List.find?_some hfound
  rw [hfound, List.inj_on_of_nodup_map h (mem_of_sheet? hfound) hsheet hname]

/-- The names of the sheets, each with the sizes of its lines. -/
def sizing (book : Workbook) : List (String × (Axis → Sizes Binary64)) :=
  book.sheets.map fun sheet => (sheet.name, sheet.sizes)

/-- A change of one sheet that keeps its name and its sizes keeps the sizes of all lines. -/
theorem sizing_update {f : Worksheet → Worksheet} (hname : ∀ sheet, (f sheet).name = sheet.name)
    (hsizes : ∀ sheet axis, (f sheet).sizes axis = sheet.sizes axis) (book : Workbook)
    (name : String) : (book.update name f).sizing = book.sizing := by
  rw [sizing, sizing, update, List.map_map]
  refine List.map_congr_left fun sheet _ => ?_
  rw [Function.comp_apply]
  split
  · rw [hname, funext (hsizes sheet)]
  · rfl

/-- A workbook that is read from its file is opened with all its sheets. -/
theorem opened_of_read_write {book read : Workbook} (h : book.Orderly) (hne : book.sheets ≠ [])
    (hread : JsonFile.read (JsonFile.write book) = .ok read) (options : GridOptions) :
    read.opened options = ⟨book.sheets.map (·.throughFile options)⟩ := by
  have hsome : (book.throughText.sheets.map JsonFile.reading).isEmpty = false := by
    simpa [throughText] using hne
  rw [eq_of_read_write h hread, opened, hsome, if_neg Bool.false_ne_true, throughText,
    List.map_map, List.map_map]
  rfl

end Workbook

/-! ### Saving and opening -/

namespace OpenFile

variable {file after : OpenFile}

/-- A common change keeps the sizes of lines. -/
theorem Common.sizing_eq (h : Common file after) : after.book.sizing = file.book.sizing := by
  cases h with
  | write hsheet a value =>
    exact Workbook.sizing_update (fun sheet => sheet.name_put a value)
      (fun sheet => sheet.sizes_put a value) _ _
  | capture hsheet => rfl
  | attend selection dragging edit client => rfl
  | reach a => rfl
  | cover anchor hrows hcolumns =>
    exact Workbook.sizing_update (fun sheet => sheet.name_cover _)
      (fun sheet => sheet.sizes_cover _) _ _

/-- A sheet that is shown without a view keeps its sizes. -/
theorem sheet?_restore_of_no_view {options : GridOptions} {name : String}
    (hview : file.view.sheets = []) (h : file.restore options name = .ok after) (other : String) :
    after.book.sheet? other = file.book.sheet? other := by
  obtain ⟨sheet, -, h⟩ := Except.bind_eq_ok_iff.1 h
  cases h
  have hnone : file.view.sheet? name = none := by
    rw [FileView.sheet?, hview]
    rfl
  show (file.book.update name (resized · ((file.view.sheet? name).getD { sheet := name }))).sheet?
    other = _
  rw [hnone, Workbook.sheet?_update fun sheet => Content.name_resized sheet _]
  split
  · cases file.book.sheet? other <;> rfl
  · rfl

/-- A file that is opened without a view has the sheets that were read. -/
theorem sheet?_ofBook {path : String} {book : Workbook} {options : GridOptions}
    (h : ofBook path book {} options = .ok file) (name : String) :
    file.book.sheet? name = (book.opened options).sheet? name :=
  sheet?_restore_of_no_view rfl h name

end OpenFile

namespace Editor

variable {editor saved : Editor} {answer : Answer} {before file reopened : OpenFile}

/-- Saving changes no size. -/
theorem sizing_save (hbefore : editor.file = some before)
    (hfile : editor.save.2.file = some file) : file.book.sizing = before.book.sizing := by
  refine (makes_save hbefore hfile).keeps (P := fun file => file.book.sizing = before.book.sizing)
    (fun _ _ hcommon h => hcommon.sizing_eq.trans h) (fun _ _ hown h => ?_) rfl
  cases hown
  exact h

/-- A file is opened if it can be read. -/
theorem openFile_eq_ok_iff (path : String) (view : Option FileView) :
    (∃ file, editor.openFile path view = (.ok .done, { editor with file := some file })) ↔
      ∃ book, editor.readBook path = .ok book := by
  rcases openFile_cases editor path view with ⟨book, file, _, _, hbook, hopened, -⟩ |
    ⟨error, hrefused⟩
  · exact ⟨fun _ => ⟨book, hbook⟩, fun _ => ⟨file, hopened⟩⟩
  · constructor
    · rintro ⟨file, hopened⟩
      cases hrefused.symm.trans hopened
    · rintro ⟨book, hbook⟩
      rw [readBook_of_openFile_error (congrArg Prod.fst hrefused)] at hbook
      cases hbook

section

variable (reached : Reachable editor) (hsave : editor.perform .save = (.ok answer, saved))
  (hfile : saved.file = some file) (hformat : BookFormat.ofPath file.path = .json)
  (hreadable : saved.store.readable = true)

include reached hsave hfile hformat hreadable

/-- What is read of a file that was saved, by an editor that is started anew. -/
theorem readBook_restarted (clipboard : Clipboard) :
    (saved.restarted clipboard).readBook file.path = JsonFile.read (JsonFile.write file.book) := by
  have hcontent := (content_of_save reached hsave hfile hformat).1
  simp only [readBook, restarted, FileStore.read?, if_pos hreadable, hcontent, hformat]
  rfl

/-- A sheet of a file that was saved, when it is opened again without a view. -/
theorem sheet?_reopened {clipboard : Clipboard}
    (hreopened : ((saved.restarted clipboard).perform (.openFile file.path none)).2.file =
      some reopened) {sheet : Worksheet} (hsheet : sheet ∈ file.book.sheets) :
    reopened.book.sheet? sheet.name = some (sheet.throughFile saved.options) := by
  have horderly := (content_of_save reached hsave hfile hformat).2
  have hread := readBook_restarted reached hsave hfile hformat hreadable clipboard
  simp only [perform, openFile] at hreopened
  split at hreopened
  · rename_i opened hopened
    cases hreopened
    obtain ⟨book, hbook, hopened⟩ := Except.bind_eq_ok_iff.1 hopened
    rw [hread] at hbook
    have hsheets := Workbook.opened_of_read_write horderly (List.ne_nil_of_mem hsheet) hbook
      saved.options
    refine (OpenFile.sheet?_ofBook hopened sheet.name).trans ?_
    show (book.opened saved.options).sheet? sheet.name = _
    rw [hsheets, Workbook.sheet?_map fun sheet => sheet.name_throughFile saved.options,
      Workbook.sheet?_of_mem horderly.names hsheet, Option.map_some]
  -- an editor that was started anew has no other file open
  · cases hreopened

/-- The sizes of a sheet as it was before the save, when its file is opened again without a view. -/
theorem sizes_reopened {clipboard : Clipboard}
    (hreopened : ((saved.restarted clipboard).perform (.openFile file.path none)).2.file =
      some reopened) (hbefore : editor.file = some before) {sheet : Worksheet}
    (hsheet : sheet ∈ before.book.sheets) (hfinite : sheet.SizesFinite) :
    ∃ again, reopened.book.sheet? sheet.name = some again ∧
      ∀ axis i, (again.sizes axis).size i = (sheet.sizes axis).size i ↔
        ∀ size, (sheet.sizes axis).own.get? i = some size →
          (if size.throughText = JsonFile.plainSize axis then saved.options.common axis
            else size.throughText) = size := by
  have hsaved : saved = (editor.perform .save).2 := by rw [hsave]
  -- the sheet is saved with the sizes that it had before
  have hsizing : file.book.sizing = before.book.sizing := sizing_save hbefore (hsaved ▸ hfile)
  have hmem : (sheet.name, sheet.sizes) ∈ file.book.sizing :=
    hsizing ▸ List.mem_map.2 ⟨sheet, hsheet, rfl⟩
  obtain ⟨later, hlater, hsame⟩ := List.mem_map.1 hmem
  obtain ⟨hname, hsizes⟩ := Prod.mk.inj hsame
  have hagain := sheet?_reopened reached hsave hfile hformat hreadable hreopened hlater
  have hcommon := (hsaved ▸ reached.perform .save : Reachable saved).hasCommonSizes hfile
  have hlaterFinite : later.SizesFinite := by
    rw [Worksheet.SizesFinite, hsizes]
    exact hfinite
  refine ⟨_, hname ▸ hagain, fun axis i => ?_⟩
  rw [← hsizes]
  exact Worksheet.size_throughFile_eq_iff hlaterFinite (hcommon later hlater axis) i

end

/-- A file that was saved is opened again without a view if it can be read. Then its lines have the
sizes that they had before, but for those whose own size is read as another one, and those whose own
size is the one that lines have while a sheet is read. -/
theorem sizes_of_reopened_file (reached : Reachable editor) (hbefore : editor.file = some before)
    (hfinite : ∀ sheet ∈ before.book.sheets, sheet.SizesFinite)
    (hsave : editor.perform .save = (.ok answer, saved)) (hfile : saved.file = some file)
    (hformat : BookFormat.ofPath file.path = .json) (hreadable : saved.store.readable = true)
    (clipboard : Clipboard) :
    ((∃ reopened, (saved.restarted clipboard).perform (.openFile file.path none) =
        (.ok .done, { saved.restarted clipboard with file := some reopened })) ↔
      ∀ sheet ∈ file.book.sheets, sheet.Bounded ∧ sheet.CellsFinite) ∧
    ∀ reopened,
      ((saved.restarted clipboard).perform (.openFile file.path none)).2.file = some reopened →
      ∀ sheet ∈ before.book.sheets, ∃ again, reopened.book.sheet? sheet.name = some again ∧
        ∀ axis i, (again.sizes axis).size i = (sheet.sizes axis).size i ↔
          ∀ size, (sheet.sizes axis).own.get? i = some size →
            (if size.throughText = JsonFile.plainSize axis then saved.options.common axis
              else size.throughText) = size := by
  constructor
  · show (∃ reopened, (saved.restarted clipboard).openFile file.path none = _) ↔ _
    rw [openFile_eq_ok_iff, readBook_restarted reached hsave hfile hformat hreadable]
    exact Workbook.read_write_eq_ok_iff (content_of_save reached hsave hfile hformat).2
  · intro reopened hreopened sheet hsheet
    exact sizes_reopened reached hsave hfile hformat hreadable hreopened hbefore hsheet
      (hfinite sheet hsheet)

/-- An editor with wide columns, in a new file of which a column has the width that columns have
while a sheet is read, and another one is wider still. -/
def wideColumns : Editor :=
  Editor.after { options := { columnWidth := 120.0 } } [.openFile "plan.json" none,
    .command (.resize .column 0 100.0), .command (.resize .column 1 150.0)]

/-- The file of the editor with wide columns can be saved and read. -/
theorem wideColumns_saved :
    ∃ answer before file sheet, wideColumns.Reachable ∧ wideColumns.file = some before ∧
      before.path = "plan.json" ∧ (∀ sheet ∈ before.book.sheets, sheet.SizesFinite) ∧
      wideColumns.perform .save = (.ok answer, (wideColumns.perform .save).2) ∧
      (wideColumns.perform .save).2.file = some file ∧ file.path = "plan.json" ∧
      (∀ sheet ∈ file.book.sheets, sheet.Bounded ∧ sheet.CellsFinite) ∧
      sheet ∈ before.book.sheets ∧ sheet.columns.own.get? 0 = some 100.0 ∧
      sheet.columns.own.get? 1 = some 150.0 := by
  have reached : wideColumns.Reachable := .of_after (.start _ _ _) _
  have hopen : wideColumns.file.isSome = true := by decide
  obtain ⟨answer, file, hsave, hfile⟩ := exists_save reached hopen (by decide)
  have hbefore := (Option.some_get hopen).symm
  have hfinite : ∀ before ∈ wideColumns.file, before.path = "plan.json" ∧
      ∀ sheet ∈ before.book.sheets, sheet.SizesFinite := by decide
  have hsheet : ∀ before ∈ wideColumns.file, ∃ sheet ∈ before.book.sheets,
      sheet.columns.own.get? 0 = some 100.0 ∧ sheet.columns.own.get? 1 = some 150.0 := by
    decide
  have hknown : ∀ file ∈ (wideColumns.perform .save).2.file, file.path = "plan.json" ∧
      ∀ sheet ∈ file.book.sheets, sheet.Bounded ∧ sheet.CellsFinite := by decide
  obtain ⟨hpath, hreadable⟩ := hknown file hfile
  obtain ⟨sheet, hmem, hnarrow, hwide⟩ := hsheet _ hbefore
  exact ⟨answer, _, file, sheet, reached, hbefore, (hfinite _ hbefore).1, (hfinite _ hbefore).2,
    hsave, hfile, hpath, hreadable, hmem, hnarrow, hwide⟩

/-- The width that columns have while a sheet is read is lost for the chosen one. -/
theorem narrow_not_kept :
    (if (100.0 : Binary64).throughText = JsonFile.plainSize .column then
      (wideColumns.perform .save).2.options.common .column
      else (100.0 : Binary64).throughText) ≠ 100.0 := by
  decide

/-- The wider column is as wide as before when the file is opened again, and the other one is
not. -/
theorem sizes_of_reopened_file_wideColumns :
    ∃ before file reopened sheet again, wideColumns.file = some before ∧
      sheet ∈ before.book.sheets ∧ (wideColumns.perform .save).2.file = some file ∧
      (((wideColumns.perform .save).2.restarted {}).perform (.openFile file.path none)).2.file =
        some reopened ∧
      reopened.book.sheet? sheet.name = some again ∧
      again.columns.size 1 = sheet.columns.size 1 ∧
      again.columns.size 0 ≠ sheet.columns.size 0 := by
  obtain ⟨answer, before, file, sheet, reached, hbefore, -, hfinite, hsave, hfile, hpath,
    hbounded, hmem, hnarrow, hwide⟩ := wideColumns_saved
  obtain ⟨hopens, hsizes⟩ := sizes_of_reopened_file reached hbefore hfinite hsave hfile
    (by rw [hpath]; decide) (by decide) {}
  obtain ⟨reopened, hreopened⟩ := hopens.2 hbounded
  obtain ⟨again, hagain, hkept⟩ := hsizes reopened (congrArg (·.2.file) hreopened) sheet hmem
  refine ⟨before, file, reopened, sheet, again, hbefore, hmem, hfile,
    congrArg (·.2.file) hreopened, hagain,
    (hkept .column 1).2 fun size hsize => ?_, fun hsame => ?_⟩
  · cases hwide.symm.trans hsize
    decide
  · exact narrow_not_kept ((hkept .column 0).1 hsame 100.0 hnarrow)

/-- A file may be opened again with other sizes than it was saved with. -/
theorem size_lost_in_file :
    ¬ ∀ (editor saved : Editor) (answer : Answer) (before reopened : OpenFile)
      (clipboard : Clipboard), Reachable editor → editor.file = some before →
      BookFormat.ofPath before.path = .json →
      (∀ sheet ∈ before.book.sheets, ∀ axis i, ((sheet.sizes axis).size i).isFinite = true) →
      editor.perform .save = (.ok answer, saved) → saved.store.readable = true →
      ((saved.restarted clipboard).perform (.openFile before.path none)).2.file = some reopened →
      ∀ sheet ∈ before.book.sheets, ∃ again, reopened.book.sheet? sheet.name = some again ∧
        ∀ axis i, (again.sizes axis).size i = (sheet.sizes axis).size i := by
  intro h
  obtain ⟨answer, before, file, sheet, reached, hbefore, hopenPath, hfinite, hsave, hfile, hpath,
    hbounded, hmem, hnarrow, -⟩ := wideColumns_saved
  have hformat : BookFormat.ofPath "plan.json" = .json := by decide
  have hread : (wideColumns.perform .save).2.store.readable = true := by decide
  have hsizes : ∀ sheet ∈ before.book.sheets, ∀ axis i,
      ((sheet.sizes axis).size i).isFinite = true := by
    intro sheet hsheet axis i
    refine (hfinite sheet hsheet).isFinite_size ?_ i
    rw [reached.hasCommonSizes hbefore sheet hsheet]
    cases axis <;> decide
  -- the file is opened, as it can be read
  obtain ⟨book, hbook⟩ :=
    (Workbook.read_write_eq_ok_iff (content_of_save reached hsave hfile (hpath ▸ hformat)).2).2
      hbounded
  rw [← readBook_restarted reached hsave hfile (hpath ▸ hformat) hread {}] at hbook
  obtain ⟨reopened, hreopened⟩ := (openFile_eq_ok_iff file.path none).2 ⟨book, hbook⟩
  have hreopened : (((wideColumns.perform .save).2.restarted {}).perform
      (.openFile file.path none)).2.file = some reopened := congrArg (·.2.file) hreopened
  obtain ⟨again, hagain, hkept⟩ := sizes_reopened reached hsave hfile (hpath ▸ hformat) hread
    hreopened hbefore hmem (hfinite sheet hmem)
  rw [hpath, ← hopenPath] at hreopened
  obtain ⟨other, hother, hall⟩ := h wideColumns _ answer before reopened {} reached hbefore
    (hopenPath ▸ hformat) hsizes hsave hread hreopened sheet hmem
  obtain rfl := Option.some.inj (hagain.symm.trans hother)
  exact narrow_not_kept ((hkept .column 0).1 (hall .column 0) 100.0 hnarrow)

end Editor

end EnsembleDesk

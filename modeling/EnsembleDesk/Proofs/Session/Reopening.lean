import EnsembleDesk.Proofs.Number.Places
import EnsembleDesk.Proofs.Session.CommonSizes
import EnsembleDesk.Proofs.Session.UsedRange
import EnsembleDesk.Proofs.Session.ViewText
/-!
# Files that are opened again

A file is saved in two parts: its workbook goes to the store, and how it is looked at goes to the
host as a text. A new editor that opens the file with this text shows it as it was. The sizes of
lines are in both parts. What the reader of the workbook drops, because it is the common size of
its own, is set again from the view; what the view drops, because it is the chosen common size, is
what a line has without a size of its own.

## Main results

* `OpenFile.capture_captured`, `Editor.save_eq_ok`: what is kept of a file when it is saved;
* `Editor.saved_file_reopens`: a file that was saved is opened again as it was.
-/

namespace EnsembleDesk

/-! ### Views -/

/-- The view of a sheet that was put in is the one that is found for that sheet. -/
theorem FileView.sheet?_put (view : FileView) (state : SheetView) :
    (view.put state).sheet? state.sheet = some state := by
  have hfind : ∀ sheets : List SheetView,
      (replaceFirst state sheets).find? (fun sheet => sheet.sheet == state.sheet) = some state := by
    intro sheets
    induction sheets with
    | nil => simp [replaceFirst]
    | cons head rest ih =>
      rw [replaceFirst]
      split
      · simp
      · rename_i hname
        simp [hname, ih]
  exact hfind view.sheets

namespace OpenFile

/-- How the sheet that is shown is looked at has been kept. -/
structure Captured (file : OpenFile) (shown : Worksheet) : Prop where
  /-- The sheet is shown. -/
  sheet : file.book.sheet? file.active = some shown
  /-- The sheet is the visible one. -/
  visible : file.view.visible = file.active
  /-- The view of the sheet is the current one. -/
  view : file.view.sheet? file.active = some (file.currentView shown)

/-- After a capture, how the sheet that is shown is looked at has been kept. -/
theorem capture_captured {file after : OpenFile} (h : file.capture = .ok after) :
    ∃ shown, after.Captured shown := by
  rw [capture, Except.bind_eq_ok_iff] at h
  obtain ⟨shown, hshown, hafter⟩ := h
  obtain rfl := Except.ok.inj hafter
  refine ⟨shown, ?_, rfl, FileView.sheet?_put file.view (file.currentView shown)⟩
  rw [OpenFile.sheet, Workbook.sheet] at hshown
  split at hshown
  · rename_i sheet hsheet
    obtain rfl := Except.ok.inj hshown
    exact hsheet
  · cases hshown

end OpenFile

namespace FileStore

/-- What was written to a file is what the store holds of it. -/
theorem content?_of_write? {store after : FileStore} {path : String} {content : List UInt8}
    (h : store.write? path content = some after) : after.content? path = some content := by
  rw [write?] at h
  split at h
  · obtain rfl := Option.some.inj h
    simp [content?, put]
  · cases h

end FileStore

namespace Editor

/-- A file that was saved: its view is the answer, and the store holds its workbook. -/
theorem save_eq_ok {editor saved : Editor} {answer : Answer}
    (h : editor.save = (.ok answer, saved)) :
    ∃ file shown, saved.file = some file ∧ answer = .view file.view ∧ file.Captured shown ∧
      saved.store.content? file.path = some ((BookFormat.ofPath file.path).write file.book) := by
  rw [save] at h
  split at h
  · cases h
  · split at h
    · cases h
    · rename_i captured hcaptured
      split at h
      · cases h
      · rename_i store hstore
        obtain ⟨hanswer, rfl⟩ := Prod.mk.inj h
        obtain ⟨committed, -, hcapture⟩ := Except.bind_eq_ok_iff.1 hcaptured
        obtain ⟨shown, hshown⟩ := OpenFile.capture_captured hcapture
        exact ⟨_, shown, rfl, (Except.ok.inj hanswer).symm,
          ⟨hshown.sheet, hshown.visible, hshown.view⟩, FileStore.content?_of_write? hstore⟩

end Editor

/-! ### Sheets -/

namespace Worksheet

/-- What a sheet holds, apart from sizes: its name, its cells and its used range. -/
def holding (sheet : Worksheet) : String × Sparse Address CellValue × Option CellRange :=
  (sheet.name, sheet.cells, sheet.used)

end Worksheet

namespace Workbook

/-- What the sheets hold, in order. -/
def holdings (book : Workbook) : List (String × Sparse Address CellValue × Option CellRange) :=
  book.sheets.map Worksheet.holding

/-- The sheet of a name in sheets that were changed under their names is the changed sheet of that
name. -/
theorem sheet?_map {f : Worksheet → Worksheet} (hf : ∀ sheet, (f sheet).name = sheet.name)
    (sheets : List Worksheet) (name : String) :
    (Workbook.mk (sheets.map f)).sheet? name = ((Workbook.mk sheets).sheet? name).map f := by
  simp only [sheet?, List.find?_map, Function.comp_def, hf]

/-- A change of all sheets that keeps what each one holds keeps the holdings. -/
theorem holdings_map {f : Worksheet → Worksheet} (hf : ∀ sheet, (f sheet).holding = sheet.holding)
    (sheets : List Worksheet) :
    (Workbook.mk (sheets.map f)).holdings = (Workbook.mk sheets).holdings := by
  rw [holdings, List.map_map]
  exact List.map_congr_left fun sheet _ => hf sheet

/-- A change of one sheet that keeps what it holds keeps the holdings. -/
theorem holdings_update {f : Worksheet → Worksheet}
    (hf : ∀ sheet, (f sheet).holding = sheet.holding) (book : Workbook) (name : String) :
    (book.update name f).holdings = book.holdings := by
  refine holdings_map (fun sheet => ?_) book.sheets
  split
  · exact hf sheet
  · rfl

end Workbook

/-- A sheet as it is read from its file, with the common sizes that the user chose. -/
def Worksheet.reloaded (sheet : Worksheet) (options : GridOptions) : Worksheet :=
  { JsonFile.reread sheet with
    columns := { (JsonFile.reread sheet).columns with common := options.common .column }
    rows := { (JsonFile.reread sheet).rows with common := options.common .row } }

/-- A sheet that is read from its file keeps its name. -/
@[simp]
theorem Worksheet.name_reloaded (sheet : Worksheet) (options : GridOptions) :
    (sheet.reloaded options).name = sheet.name := rfl

/-- A sheet that is read from its file holds what it held. -/
theorem Worksheet.holding_reloaded (sheet : Worksheet) (options : GridOptions) :
    (sheet.reloaded options).holding = sheet.holding := rfl

/-- Restored sizes do not change what a sheet holds. -/
theorem Worksheet.holding_resized (sheet : Worksheet) (view : SheetView) :
    (OpenFile.resized sheet view).holding = sheet.holding := rfl

/-- A workbook that was read from its file is opened with all its sheets. -/
theorem Workbook.opened_reread {book : Workbook} (h : book.sheets ≠ []) (options : GridOptions) :
    (Workbook.mk (book.sheets.map JsonFile.reread)).opened options =
      ⟨book.sheets.map (·.reloaded options)⟩ := by
  have hne : (book.sheets.map JsonFile.reread).isEmpty = false := by simpa using h
  rw [opened, hne, if_neg Bool.false_ne_true, List.map_map]
  rfl

/-! ### Sizes -/

/-- A size that compares as equal with the chosen common size is the chosen one. -/
theorem GridOptions.eq_common_of_same {options : GridOptions} {axis : Axis} {size : Binary64}
    (h : Scalar.same size (options.common axis) = true) : size = options.common axis := by
  rw [Scalar.same, Bool.and_eq_true, decide_eq_true_eq, decide_eq_true_eq] at h
  refine Binary64.eq_of_le_of_le h.1 h.2 ?_
  cases axis <;> exact Binary64.one_le_larger_one _

/-- A size that counts as the same as the common one is the common one, which is no zero. -/
theorem Worksheet.eq_common_of_same {sheet : Worksheet} {options : GridOptions} {axis : Axis}
    (hcommon : (sheet.sizes axis).common = options.common axis) {size : Binary64}
    (h : Scalar.same size (sheet.sizes axis).common = true) :
    size = (sheet.sizes axis).common := by
  rw [hcommon] at h ⊢
  exact GridOptions.eq_common_of_same h

/-- The sizes of a sheet that was read from its file and is shown with its view again. -/
theorem Worksheet.size_reopened {sheet : Worksheet} {options : GridOptions}
    (hcommon : ∀ axis, (sheet.sizes axis).common = options.common axis) {view : SheetView}
    (hcolumns : view.columnWidths = sheet.columns.own) (hrows : view.rowHeights = sheet.rows.own)
    (axis : Axis) (i : Index) :
    ((OpenFile.resized (sheet.reloaded options) view).sizes
      axis).size i = (sheet.sizes axis).size i := by
  have hsame : ∀ size, Scalar.same size (sheet.sizes axis).common = true →
      size = (sheet.sizes axis).common :=
    fun _ => Worksheet.eq_common_of_same (hcommon axis)
  cases axis with
  | column =>
    have hbase : (sheet.reloaded options).columns.common =
        sheet.columns.common := (hcommon .column).symm
    rw [OpenFile.resized, hcolumns]
    exact Sizes.size_setAll_own hbase (fun _ _ => Sizes.of_get?_setAll_entries rfl) hsame i
  | row =>
    have hbase : (sheet.reloaded options).rows.common =
        sheet.rows.common := (hcommon .row).symm
    rw [OpenFile.resized, hrows]
    exact Sizes.size_setAll_own hbase (fun _ _ => Sizes.of_get?_setAll_entries rfl) hsame i

/-! ### Opening -/

namespace OpenFile

/-- A file shows what another one does: the same sheet in the same way, and all its sheets hold the
same. Nothing was changed in it yet, and no text is typed. -/
structure Restores (reopened file : OpenFile) : Prop where
  /-- The same sheet is shown. -/
  active : reopened.active = file.active
  /-- It is scrolled to the same position. -/
  scroll : reopened.scroll = file.scroll
  /-- The same cells are selected. -/
  selection : reopened.selection = file.selection
  /-- All its lines have the same sizes. -/
  sizes : ∃ shown again, file.sheet = .ok shown ∧ reopened.sheet = .ok again ∧
    ∀ axis i, (again.sizes axis).size i = (shown.sizes axis).size i
  /-- The sheets have the same names, cells and used ranges. -/
  holdings : reopened.book.holdings = file.book.holdings
  /-- There is nothing to be saved. -/
  clean : reopened.isDirty = false
  /-- No text is being typed. -/
  edit : reopened.edit = none

/-- A sheet is shown with the view of it that was kept. -/
theorem restore_of_view {file : OpenFile} {name : String} {sheet : Worksheet} {state : SheetView}
    (hsheet : file.book.sheet? name = some sheet) (hview : file.view.sheet? name = some state)
    (options : GridOptions) :
    Yields (file.restore options name) fun after =>
      after.active = name ∧ after.scroll = state.scroll ∧ after.selection = state.selection ∧
        after.book = file.book.update name (resized · state) ∧
        after.isDirty = file.isDirty ∧ after.edit = none := by
  rw [restore, hview, Workbook.sheet_eq_ok hsheet, Except.ok_bind]
  exact .ok ⟨rfl, rfl, rfl, rfl, rfl, rfl⟩

/-- A file is opened with the view of its visible sheet. -/
theorem ofBook_of_view (path : String) {book : Workbook} {options : GridOptions} {view : FileView}
    {sheet : Worksheet} {state : SheetView}
    (hsheet : (book.opened options).sheet? view.visible = some sheet)
    (hview : view.sheet? view.visible = some state) :
    Yields (ofBook path book view options) fun file =>
      file.active = view.visible ∧ file.scroll = state.scroll ∧
        file.selection = state.selection ∧
        file.book = (book.opened options).update view.visible (resized · state) ∧
        file.isDirty = false ∧ file.edit = none := by
  have hvisible : (book.opened options).names.contains view.visible = true :=
    List.contains_iff_mem.2 (Workbook.mem_names_iff.2 ⟨sheet, hsheet⟩)
  rw [ofBook]
  show Yields (restore _ options (if (book.opened options).names.contains view.visible then
    view.visible else _)) _
  rw [if_pos hvisible]
  exact restore_of_view hsheet hview options

end OpenFile

namespace Editor

variable {editor saved : Editor} {file : OpenFile} {shown : Worksheet}

/-- The workbook of a file is read back from the store, but for the common sizes of its lines. -/
theorem readBook_of_content {path : String} {book : Workbook}
    (hcontent : saved.store.content? path = some ((BookFormat.ofPath path).write book))
    (hformat : BookFormat.ofPath path = .json) (hreadable : saved.store.readable = true)
    (hbook : book.Orderly) (hbounded : ∀ sheet ∈ book.sheets, sheet.Bounded)
    (hnumbers : ∀ sheet ∈ book.sheets, KeptInText sheet.numbers) :
    saved.readBook path = .ok ⟨book.sheets.map JsonFile.reread⟩ := by
  have hdocument : JsonFile.ofJson (JsonFile.toJson book) =
      .ok ⟨book.sheets.map JsonFile.reread⟩ :=
    JsonFile.ofJson_toJson_map hbook.names (fun _ => rfl) fun sheet hsheet =>
      JsonFile.readSheet_settled_of_covered (hbook.covered sheet hsheet)
        (fun x hx => (hnumbers sheet hsheet x hx).1) (hbounded sheet hsheet)
  have hread := JsonFile.read_write hdocument fun sheet hsheet x hx =>
    (hnumbers sheet hsheet x hx).2
  rw [readBook, FileStore.read?, if_pos hreadable, hcontent, hformat]
  exact hread

/-- A new editor, with the files and the options of another one. -/
def restarted (editor : Editor) (clipboard : Clipboard) : Editor :=
  { store := editor.store, clipboard := clipboard, options := editor.options }

/-- A file that was saved is shown as it was when a new editor opens it with the view that was
answered, as the host reads it from its text. -/
theorem saved_file_reopens (reached : Reachable editor) {view : FileView}
    (hsave : editor.perform .save = (.ok (.view view), saved)) (hfile : saved.file = some file)
    (hformat : BookFormat.ofPath file.path = .json) (hreadable : saved.store.readable = true)
    (hbounded : ∀ sheet ∈ file.book.sheets, sheet.Bounded)
    (hnumbers : ∀ sheet ∈ file.book.sheets, KeptInText sheet.numbers)
    (hview : KeptInText view.numbers) (clipboard : Clipboard) :
    ∃ reopened,
      (saved.restarted clipboard).perform
          (.openFile file.path (FileView.read view.text).toOption) =
        (.ok .done, { saved.restarted clipboard with file := some reopened }) ∧
      reopened.Restores file := by
  -- what was saved
  have hsaved : saved = (editor.perform .save).2 := by rw [hsave]
  have reachedSaved : Reachable saved := hsaved ▸ reached.perform .save
  obtain ⟨_, shown, hopen, hanswer, hcaptured, hcontent⟩ := save_eq_ok hsave
  rw [hfile] at hopen
  obtain rfl := Option.some.inj hopen
  obtain rfl : view = file.view := by cases hanswer; rfl
  -- the sheets that are read, with the chosen common sizes
  have hreading : (saved.restarted clipboard).readBook file.path =
      .ok ⟨file.book.sheets.map JsonFile.reread⟩ :=
    readBook_of_content hcontent hformat hreadable (reachedSaved.orderly hfile) hbounded hnumbers
  have hshown : shown ∈ file.book.sheets := Workbook.mem_of_sheet? hcaptured.sheet
  have hopened := Workbook.opened_reread (List.ne_nil_of_mem hshown) saved.options
  have hsheet := Workbook.sheet?_map (fun sheet => Worksheet.name_reloaded sheet saved.options)
    file.book.sheets file.active
  rw [← hopened, hcaptured.sheet] at hsheet
  -- the file is opened
  obtain ⟨reopened, hok, hactive, hscroll, hselection, hupdated, hclean, hedit⟩ :=
    OpenFile.ofBook_of_view file.path (hcaptured.visible ▸ hsheet)
      (hcaptured.visible ▸ hcaptured.view)
  rw [hcaptured.visible] at hactive hupdated
  have hagain : reopened.book.sheet? reopened.active =
      some (OpenFile.resized (shown.reloaded saved.options) (file.currentView shown)) := by
    rw [hupdated, hactive, Workbook.sheet?_update fun sheet => Content.name_resized sheet _,
      if_pos rfl, hsheet]
    rfl
  refine ⟨reopened, ?_, hactive, hscroll, hselection, ⟨shown, _,
    Workbook.sheet_eq_ok hcaptured.sheet, Workbook.sheet_eq_ok hagain, ?_⟩, ?_, hclean, hedit⟩
  · have hofBook : OpenFile.ofBook file.path _ ((some file.view).getD {})
        (saved.restarted clipboard).options = .ok reopened := hok
    rw [FileView.read_text hview]
    show (saved.restarted clipboard).openFile file.path (some file.view) = _
    rw [openFile, hreading, Except.ok_bind, hofBook]
  · exact Worksheet.size_reopened (reachedSaved.hasCommonSizes hfile shown hshown) rfl rfl
  · rw [hupdated, Workbook.holdings_update fun sheet => sheet.holding_resized _, hopened]
    exact Workbook.holdings_map (fun sheet => sheet.holding_reloaded _) _

/-- A file in which a number was written and a column was widened, and in which a text is being
typed. -/
def typingInPlan : Editor :=
  after {} [.openFile "plan.json" none, .write ⟨1, 2⟩ (some (.number 2.5)),
    .command (.resize .column 3 150.0), .command (.pointerDown ⟨4, 0⟩ false),
    .command (.typeChar '7')]

/-- The typed text is saved as well, and the wide column is as wide as before. -/
theorem saved_file_reopens_plan :
    ∃ view file reopened,
      (typingInPlan.perform .save).1 = .ok (.view view) ∧
      (typingInPlan.perform .save).2.file = some file ∧
      (((typingInPlan.perform .save).2.restarted {}).perform
        (.openFile file.path (FileView.read view.text).toOption)).2.file = some reopened ∧
      reopened.Restores file := by
  have reached : Reachable typingInPlan := (Reachable.start {} {} {}).of_after _
  -- the file is open, so that it can be saved
  have hopen : typingInPlan.file.isSome = true := by decide +kernel
  have hwritable : typingInPlan.store.writable = true := by decide +kernel
  have hkept : ∀ file ∈ typingInPlan.save.2.file,
      BookFormat.ofPath file.path = .json ∧ (∀ sheet ∈ file.book.sheets, sheet.Bounded) ∧
        (∀ sheet ∈ file.book.sheets, KeptInText sheet.numbers) ∧
        KeptInText file.view.numbers := by decide +kernel
  have hbefore := (Option.some_get hopen).symm
  obtain ⟨-, answer, -, hanswer, -⟩ | ⟨hrefused, -⟩ := save_cases hbefore (reached.sound hbefore)
  · have hsave : typingInPlan.save = (.ok answer, typingInPlan.save.2) := Prod.ext hanswer rfl
    obtain ⟨file, _, hfile, rfl, -⟩ := save_eq_ok hsave
    obtain ⟨hformat, hbounded, hnumbers, hview⟩ := hkept file hfile
    obtain ⟨reopened, hreopened, hrestores⟩ := saved_file_reopens reached hsave hfile hformat
      (by decide +kernel) hbounded hnumbers hview {}
    exact ⟨_, file, reopened, hanswer, hfile, congrArg (·.2.file) hreopened, hrestores⟩
  · rw [hwritable] at hrefused
    cases hrefused

end Editor

end EnsembleDesk

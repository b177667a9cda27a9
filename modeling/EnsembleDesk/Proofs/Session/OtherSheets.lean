import EnsembleDesk.Proofs.Session.Names
import EnsembleDesk.Proofs.Session.Parts
import EnsembleDesk.Proofs.Session.Reopening
/-!
# Sheets that are not shown

When another sheet is shown, the view of the one that is left is kept under its name, and its lines
keep their sizes. `OpenFile.SetAside` says so of an open file. While other sheets are worked on it
stays true: what is done to lines and views is done to the sheet that is shown, and a write that is
taken back from a sheet that is not shown changes a cell there and no size.

## Main results

* `Editor.sheet_resumes`: a sheet that is shown again is shown as it was left.
-/

namespace EnsembleDesk

theorem FileView.sheet?_put_of_ne (view : FileView) {state : SheetView} {name : String}
    (h : name ≠ state.sheet) : (view.put state).sheet? name = view.sheet? name := by
  have hfind : ∀ sheets : List SheetView,
      (replaceFirst state sheets).find? (fun sheet => sheet.sheet == name) =
        sheets.find? fun sheet => sheet.sheet == name := by
    intro sheets
    induction sheets with
    | nil => simp [replaceFirst, h.symm]
    | cons head rest ih =>
      rw [replaceFirst]
      split
      · -- the view that is replaced is not the one that is looked for
        rename_i hname
        simp [hname, h.symm]
      · simp [List.find?_cons, ih]
  exact hfind view.sheets

namespace OpenFile

variable {file after : OpenFile} {shown : String} {state : SheetView} {sheet : Worksheet}

/-! ### A sheet that is set aside -/

/-- While another sheet is shown, the view of a sheet is kept, and its lines have the sizes that
they had. -/
structure SetAside (file : OpenFile) (shown : String) (state : SheetView) (sheet : Worksheet) :
    Prop where
  /-- The other sheet is shown. -/
  active : file.active = shown
  /-- It is another one. -/
  ne : state.sheet ≠ shown
  /-- The view of the sheet is kept. -/
  view : file.view.sheet? state.sheet = some state
  /-- Its lines have the sizes that they had. -/
  sizes : ∃ aside, file.book.sheet? state.sheet = some aside ∧
    ∀ axis, aside.sizes axis = sheet.sizes axis

namespace SetAside

/-- The sizes after a change of some sheet, if the change keeps those of the sheet set aside. -/
theorem sizes_update (h : file.SetAside shown state sheet) {name : String}
    {f : Worksheet → Worksheet} (hname : ∀ sheet, (f sheet).name = sheet.name)
    (hsizes : name = state.sheet → ∀ sheet axis, (f sheet).sizes axis = sheet.sizes axis) :
    ∃ aside, (file.book.update name f).sheet? state.sheet = some aside ∧
      ∀ axis, aside.sizes axis = sheet.sizes axis := by
  obtain ⟨aside, haside, hkept⟩ := h.sizes
  rw [Workbook.sheet?_update hname, haside]
  by_cases heq : state.sheet = name
  · refine ⟨f aside, if_pos heq, fun axis => ?_⟩
    rw [hsizes heq.symm, hkept]
  · exact ⟨aside, if_neg heq, hkept⟩

/-- The sizes after a change of the sheet that is shown. -/
theorem sizes_updateSheet (h : file.SetAside shown state sheet) {f : Worksheet → Worksheet}
    (hname : ∀ sheet, (f sheet).name = sheet.name) :
    ∃ aside, (file.updateSheet f).book.sheet? state.sheet = some aside ∧
      ∀ axis, aside.sizes axis = sheet.sizes axis :=
  h.sizes_update hname fun heq => absurd (heq.symm.trans h.active) h.ne

theorem of_common (hcommon : Common file after) (h : file.SetAside shown state sheet) :
    after.SetAside shown state sheet := by
  cases hcommon with
  | write hsheet a value =>
    exact ⟨h.active, h.ne, h.view, h.sizes_updateSheet fun sheet => sheet.name_put a value⟩
  | capture hsheet =>
    -- the view that is put is that of the sheet that is shown
    have hne : state.sheet ≠ file.active := h.active ▸ h.ne
    exact ⟨h.active, h.ne, (file.view.sheet?_put_of_ne hne).trans h.view, h.sizes⟩
  | attend selection dragging edit client => exact ⟨h.active, h.ne, h.view, h.sizes⟩
  | reach a => exact ⟨h.active, h.ne, h.view, h.sizes⟩
  | cover anchor hrows hcolumns =>
    exact ⟨h.active, h.ne, h.view, h.sizes_updateSheet fun sheet => sheet.name_cover _⟩

theorem of_own {options : GridOptions} {operation : Operation}
    (hstays : operation.leavesSheet = false) (hown : Own options operation file after)
    (h : file.SetAside shown state sheet) : after.SetAside shown state sheet := by
  cases hown with
  | insertLine _ axis i =>
    exact ⟨h.active, h.ne, h.view, h.sizes_updateSheet fun sheet => sheet.name_insertLine axis i⟩
  | deleteLine _ axis i =>
    exact ⟨h.active, h.ne, h.view, h.sizes_updateSheet fun sheet => sheet.name_deleteLine axis i⟩
  | resize _ axis i size =>
    exact ⟨h.active, h.ne, h.view, h.sizes_updateSheet fun sheet => sheet.name_mapSizes axis _⟩
  | takeBack hedits =>
    rename_i edit edits
    -- the write may have been one of the sheet that is set aside
    exact ⟨h.active, h.ne, h.view, h.sizes_update (fun sheet => sheet.name_put edit.cell edit.old)
      fun _ sheet axis => sheet.sizes_put edit.cell edit.old axis⟩
  | echo event hecho => exact ⟨h.active, h.ne, h.view, h.sizes⟩
  | scroll event hecho => exact ⟨h.active, h.ne, h.view, h.sizes⟩
  | restore hrestore => cases hstays
  | save => exact ⟨h.active, h.ne, h.view, h.sizes⟩

end SetAside

/-! ### Leaving a sheet -/

/-- When the typing of a text ends, the sheet is looked at as before. -/
theorem currentView_of_commit (hsheet : file.book.sheet? file.active = some sheet)
    (h : file.commit = .ok after) :
    ∃ written, after.active = file.active ∧ after.book.sheet? file.active = some written ∧
      after.currentView written = file.currentView sheet ∧
      ∀ axis, written.sizes axis = sheet.sizes axis := by
  rw [commit] at h
  split at h
  · cases h
    exact ⟨sheet, rfl, hsheet, rfl, fun _ => rfl⟩
  · rename_i session _
    obtain ⟨before, -, h⟩ := Except.bind_eq_ok_iff.1 h
    cases h
    have hsizes := sheet.sizes_put session.cell (CellValue.ofInput session.text.toList)
    have hwritten := Workbook.sheet?_update (fun sheet =>
      sheet.name_put session.cell (CellValue.ofInput session.text.toList)) file.book file.active
      file.active
    rw [if_pos rfl, hsheet] at hwritten
    refine ⟨_, rfl, hwritten, ?_, hsizes⟩
    rw [currentView, currentView, SheetView.mk.injEq]
    exact ⟨rfl, rfl, rfl, congrArg Sizes.own (hsizes .column), congrArg Sizes.own (hsizes .row)⟩

/-- A sheet is set aside when another one is shown. -/
theorem setAside_of_showSheet {options : GridOptions}
    (hsheet : file.book.sheet? file.active = some sheet) (hne : shown ≠ file.active)
    (h : file.showSheet options shown = .ok after) :
    after.SetAside shown (file.currentView sheet) sheet := by
  obtain ⟨-, -, h⟩ := Except.bind_eq_ok_iff.1 h
  obtain ⟨committed, hcommitted, h⟩ := Except.bind_eq_ok_iff.1 h
  obtain ⟨captured, hcaptured, h⟩ := Except.bind_eq_ok_iff.1 h
  obtain ⟨other, -, h⟩ := Except.bind_eq_ok_iff.1 h
  cases h
  obtain ⟨written, hactive, hwritten, hview, hsizes⟩ := currentView_of_commit hsheet hcommitted
  obtain ⟨looked, hlooked, hcaptured⟩ := Except.bind_eq_ok_iff.1 hcaptured
  cases hcaptured
  obtain rfl : written = looked := by
    rw [OpenFile.sheet, hactive, Workbook.sheet_eq_ok hwritten] at hlooked
    exact Except.ok.inj hlooked
  refine ⟨rfl, hne.symm, ?_, written, ?_, hsizes⟩
  · rw [← hview]
    exact committed.view.sheet?_put (committed.currentView written)
  -- the sheet that is shown is resized, and not the one that is left
  · refine (Workbook.sheet?_update (fun sheet => Content.name_resized sheet _) _ _ _).trans ?_
    exact (if_neg hne.symm).trans hwritten

/-! ### Coming back -/

/-- A sheet is shown as it was looked at before: in the same way, and with lines of the same
sizes. -/
structure Resumes (after file : OpenFile) (sheet : Worksheet) : Prop where
  /-- The same sheet is shown. -/
  active : after.active = file.active
  /-- The same cells are selected. -/
  selection : after.selection = file.selection
  /-- It is scrolled to the same position. -/
  scroll : after.scroll = file.scroll
  /-- All its lines have the same sizes. -/
  sizes : ∃ again, after.book.sheet? file.active = some again ∧
    ∀ axis i, (again.sizes axis).size i = (sheet.sizes axis).size i

/-- The sizes of a view that was kept of a sheet are those that its lines have already. -/
theorem size_resized_currentView {options : GridOptions} {aside : Worksheet}
    (hcommon : ∀ axis, (sheet.sizes axis).common = options.common axis)
    (hsizes : ∀ axis, aside.sizes axis = sheet.sizes axis) (axis : Axis) (i : Index) :
    ((resized aside (file.currentView sheet)).sizes axis).size i = (sheet.sizes axis).size i := by
  have hset : (resized aside (file.currentView sheet)).sizes axis =
      (aside.sizes axis).setAll (sheet.sizes axis).own.entries := by
    cases axis <;> rfl
  rw [hset, hsizes]
  exact Sizes.size_setAll_own rfl (fun _ _ h => h)
    (fun _ => Worksheet.eq_common_of_same (hcommon axis)) i

/-- A sheet that was set aside is shown again as it was left. -/
theorem resumes_of_showSheet {options chosen : GridOptions} {during : OpenFile}
    (hcommon : ∀ axis, (sheet.sizes axis).common = chosen.common axis)
    (h : during.SetAside shown (file.currentView sheet) sheet)
    (hshow : during.showSheet options file.active = .ok after) : after.Resumes file sheet := by
  -- what comes before the sheet is shown leaves it set aside
  obtain ⟨before, hbecomes, hrestore⟩ := Becomes.before_showSheet hshow
  have haside := hbecomes.keeps (fun _ _ => SetAside.of_common) h
  obtain ⟨aside, hbook, hsizes⟩ := haside.sizes
  obtain ⟨restored, hrestored, hactive, hscroll, hselection, hupdated, -⟩ :=
    restore_of_view hbook haside.view options
  cases hrestored.symm.trans hrestore
  refine ⟨hactive, hselection, hscroll, resized aside (file.currentView sheet), ?_,
    size_resized_currentView hcommon hsizes⟩
  rw [hupdated, Workbook.sheet?_update fun sheet => Content.name_resized sheet _]
  exact (if_pos rfl).trans (congrArg (Option.map _) hbook)

end OpenFile

namespace Editor

open OpenFile

variable {editor : Editor} {file : OpenFile}

/-- A sheet that exists is shown when it is told to be. -/
theorem perform_setActiveSheet (reached : Reachable editor) (hfile : editor.file = some file)
    {name : String} (hname : name ∈ file.book.names) :
    ∃ after, file.showSheet editor.options name = .ok after ∧
      editor.perform (.command (.setActiveSheet name)) =
        (.ok .done, { editor with file := some after }) := by
  obtain ⟨after, hok, -⟩ := showSheet_content (reached.sound hfile) editor.options hname
  refine ⟨after, hok, ?_⟩
  simp only [perform, performCommand, changeFile, withFile, hfile, hok, Except.map]

/-- A sheet that is left stays as it is while other things are done, and is shown again as it was
left. -/
theorem sheet_resumes (reached : Reachable editor) (hfile : editor.file = some file)
    {other : String} (hother : other ∈ file.book.names) (hne : other ≠ file.active) :
    ∃ sheet left, file.book.sheet? file.active = some sheet ∧
      editor.perform (.command (.setActiveSheet other)) = (.ok .done, left) ∧
      ∀ events, (∀ operation, .perform operation ∈ events → operation.leavesSheet = false) →
        ∃ during back after, (left.through events).file = some during ∧
          during.SetAside other (file.currentView sheet) sheet ∧
          (left.through events).perform (.command (.setActiveSheet file.active)) =
            (.ok .done, back) ∧
          back.file = some after ∧ after.Resumes file sheet := by
  obtain ⟨sheet, hsheet, -⟩ := exists_sheet (reached.sound hfile)
  obtain ⟨first, hfirst, hleft⟩ := perform_setActiveSheet reached hfile hother
  refine ⟨sheet, _, hsheet, hleft, fun events hstays => ?_⟩
  have reachedLeft := reached.perform (.command (.setActiveSheet other))
  rw [hleft] at reachedLeft
  -- the sheet stays set aside during the run
  obtain ⟨during, hduring, haside⟩ := keeps_through reachedLeft rfl
    (setAside_of_showSheet hsheet hne hfirst)
    (fun operation hmem => Operation.replacesFile_of_leavesSheet (hstays operation hmem))
    (fun _ _ => SetAside.of_common)
    fun _ operation _ _ hmem => SetAside.of_own (hstays operation hmem)
  obtain ⟨aside, hbook, -⟩ := haside.sizes
  obtain ⟨after, hafter, hback⟩ := perform_setActiveSheet (reachedLeft.through events) hduring
    (Workbook.mem_names_iff.2 ⟨aside, hbook⟩)
  refine ⟨during, _, after, hduring, haside, hback, rfl, ?_⟩
  exact resumes_of_showSheet
    (reached.hasCommonSizes hfile sheet (Workbook.mem_of_sheet? hsheet)) haside hafter

/-- A document with two sheets. -/
def twoSheets : Json :=
  .object [("SheetNames", .array [.string "a", .string "b"]),
    ("Sheets", .object [("a", .object []), ("b", .object [])])]

/-- An editor that has opened it, and has written a cell of the first sheet, widened a column, and
scrolled. -/
def onFirstSheet : Editor :=
  Editor.after { store := FileStore.put {} "plan.json" (utf8 twoSheets.compact) } [
    .openFile "plan.json" none, .write ⟨0, 0⟩ (some (.boolean true)),
    .command (.resize .column 3 150.0), .command (.pointerDown ⟨4, 2⟩ false),
    .command (.scroll ⟨⟨0.0, 48.0⟩, ⟨2600.0, 1200.0⟩, ⟨900.0, 900.0⟩⟩)]

/-- What is done while the second sheet is shown: the write of the first sheet is taken back, and
the second one is changed and saved. -/
def onSecondSheet : List Event :=
  [.perform (.command .undo), .perform (.command (.resize .column 3 200.0)),
    .perform (.command (.insertLine .column 3)), .perform (.command (.pointerDown ⟨7, 7⟩ false)),
    .perform (.command .pointerUp),
    .perform (.command (.scroll ⟨⟨0.0, 96.0⟩, ⟨2600.0, 1200.0⟩, ⟨900.0, 900.0⟩⟩)), .perform .save]

/-- The first sheet is shown again at its position, and its wide column is the same one. -/
theorem sheet_resumes_twoSheets :
    ∃ file sheet left back after,
      onFirstSheet.file = some file ∧ "b" ∈ file.book.names ∧ "b" ≠ file.active ∧
      file.scroll = ⟨0.0, 48.0⟩ ∧ file.book.sheet? file.active = some sheet ∧
      onFirstSheet.perform (.command (.setActiveSheet "b")) = (.ok .done, left) ∧
      (left.through onSecondSheet).perform (.command (.setActiveSheet file.active)) =
        (.ok .done, back) ∧
      back.file = some after ∧ after.Resumes file sheet := by
  have reached : onFirstSheet.Reachable := .of_after (.start _ _ _) _
  have hknown : onFirstSheet.file.map (fun file => (file.book.names, file.active, file.scroll)) =
      some (["a", "b"], "a", ⟨0.0, 48.0⟩) := by decide +kernel
  obtain ⟨file, hfile, hfacts⟩ := Option.map_eq_some_iff.1 hknown
  obtain ⟨hnames, hactive, hscroll⟩ : file.book.names = ["a", "b"] ∧ file.active = "a" ∧
      file.scroll = ⟨0.0, 48.0⟩ := by simpa using hfacts
  have hb : "b" ∈ file.book.names := by simp [hnames]
  have hne : "b" ≠ file.active := by simp [hactive]
  have hstays : ∀ operation, Event.perform operation ∈ onSecondSheet →
      operation.leavesSheet = false := by
    intro operation hmem
    simp only [onSecondSheet, List.mem_cons, Event.perform.injEq, List.not_mem_nil,
      or_false] at hmem
    rcases hmem with rfl | rfl | rfl | rfl | rfl | rfl | rfl <;> rfl
  obtain ⟨sheet, left, hsheet, hleft, hevents⟩ := sheet_resumes reached hfile hb hne
  obtain ⟨during, back, after, -, -, hback, hafter, hresumes⟩ := hevents onSecondSheet hstays
  exact ⟨file, sheet, left, back, after, hfile, hb, hne, hscroll, hsheet, hleft, hback, hafter,
    hresumes⟩

end Editor

end EnsembleDesk

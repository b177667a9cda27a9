import EnsembleDesk.Proofs.Number.Places
import EnsembleDesk.Proofs.Session.CommonSizes
import EnsembleDesk.Proofs.Session.InPlace
import EnsembleDesk.Proofs.Session.Parts
import EnsembleDesk.Proofs.Sheet.Lines
/-!
# Lines of less than a pixel

A common size is at least one pixel, and so is a size that the user gives to a line. Sizes that come
from a file, or from the view that it is opened with, are taken as they are, so that a line may be
smaller (`Editor.line_below_one_pixel`). No other line is: what operations do with sizes is to set
them, to move them with their lines, and to keep them in the view and take them from there again.

## Main results

* `Editor.one_le_size_or_given`: every size is at least one pixel, or was given by the file or the
  view that were opened.
-/

namespace EnsembleDesk

/-! ### Sizes of lines -/

namespace Sizes

variable {α : Type} {sizes : Sizes α} {P : α → Prop}

/-- Every size that a line has of its own has the property. -/
def AllOwn (P : α → Prop) (sizes : Sizes α) : Prop :=
  ∀ i size, sizes.own.get? i = some size → P size

/-- Lines that move take their sizes along. -/
theorem AllOwn.move (h : sizes.AllOwn P) (target : Index → Option Index) :
    AllOwn P { sizes with own := sizes.own.move target } := by
  intro j own hown
  obtain ⟨i, hi, -⟩ := Sparse.get?_move hown
  exact h i own hi

variable [Scalar α]

/-- A size that is set has the property if it is given it. -/
theorem AllOwn.set (h : sizes.AllOwn P) (i : Index) {size : α} (hsize : P size) :
    (sizes.set i size).AllOwn P := by
  intro j own hown
  rw [get?_set] at hown
  split at hown
  · split at hown
    -- a line that is given the common size has none of its own any more
    · cases hown
    · cases hown
      exact hsize
  · exact h j own hown

/-- Sizes that are set have the property if all of them are given it. -/
theorem AllOwn.setAll {entries : List (Index × α)} (h : sizes.AllOwn P)
    (hentries : ∀ entry ∈ entries, P entry.2) : (sizes.setAll entries).AllOwn P := by
  induction entries generalizing sizes with
  | nil => exact h
  | cons entry entries ih =>
    obtain ⟨hentry, hrest⟩ := List.forall_mem_cons.1 hentries
    exact ih (h.set entry.1 hentry) hrest

end Sizes

/-! ### Sheets and views -/

/-- The sizes along an axis that a view sets. -/
def SheetView.sizes (view : SheetView) : Axis → Sparse Index Binary64
  | .row => view.rowHeights
  | .column => view.columnWidths

/-- Every size that the view sets has the property. -/
def SheetView.AllSizes (P : Axis → Binary64 → Prop) (view : SheetView) : Prop :=
  ∀ axis i size, (view.sizes axis).get? i = some size → P axis size

namespace Worksheet

variable {P : Axis → Binary64 → Prop} {sheet : Worksheet}

/-- Every size that a line has of its own has the property. -/
def AllOwnSizes (P : Axis → Binary64 → Prop) (sheet : Worksheet) : Prop :=
  ∀ axis, (sheet.sizes axis).AllOwn (P axis)

/-- A sheet with the same sizes has the property, whatever else is different. -/
theorem AllOwnSizes.of_sizes {other : Worksheet} (h : sheet.AllOwnSizes P)
    (hsizes : ∀ axis, other.sizes axis = sheet.sizes axis) : other.AllOwnSizes P := by
  intro axis
  rw [hsizes]
  exact h axis

/-- The sizes along one axis are changed, and the others stay. -/
theorem AllOwnSizes.mapSizes {other : Worksheet} (h : sheet.AllOwnSizes P) {axis : Axis}
    {change : Sizes Binary64 → Sizes Binary64}
    (hother : ∀ along, other.sizes along = (sheet.mapSizes axis change).sizes along)
    (hchange : (sheet.sizes axis).AllOwn (P axis) → (change (sheet.sizes axis)).AllOwn (P axis)) :
    other.AllOwnSizes P := by
  intro along
  rw [hother, sizes_mapSizes]
  split
  · rename_i heq
    subst heq
    exact hchange (h along)
  · exact h along

/-- An inserted line has no size of its own. -/
theorem AllOwnSizes.insertLine (h : sheet.AllOwnSizes P) (axis : Axis) (i : Index) :
    (sheet.insertLine axis i).AllOwnSizes P :=
  h.mapSizes (fun along => by cases along <;> rfl) fun h => h.move _

/-- A deleted line takes its size with it. -/
theorem AllOwnSizes.deleteLine (h : sheet.AllOwnSizes P) (axis : Axis) (i : Index) :
    (sheet.deleteLine axis i).AllOwnSizes P :=
  h.mapSizes (fun along => by cases along <;> rfl) fun h => h.move _

/-- The sizes that a view sets are those that the view has. -/
theorem AllOwnSizes.resized (h : sheet.AllOwnSizes P) {view : SheetView} (hview : view.AllSizes P) :
    (OpenFile.resized sheet view).AllOwnSizes P := by
  intro axis
  have hentries : ∀ entry ∈ (view.sizes axis).entries, P axis entry.2 := fun entry hentry =>
    hview axis entry.1 entry.2 (Sparse.get?_eq_some_iff.2 hentry)
  cases axis with
  | row => exact (h .row).setAll hentries
  | column => exact (h .column).setAll hentries

end Worksheet

/-! ### Files -/

/-- Every size that a line of a sheet has of its own has the property; it may depend on the name of
the sheet and on the axis. -/
def Workbook.AllOwnSizes (P : String → Axis → Binary64 → Prop) (book : Workbook) : Prop :=
  ∀ sheet ∈ book.sheets, sheet.AllOwnSizes (P sheet.name)

/-- Every size that the views of the sheets set has the property. -/
def FileView.AllSizes (P : String → Axis → Binary64 → Prop) (view : FileView) : Prop :=
  ∀ state ∈ view.sheets, state.AllSizes (P state.sheet)

variable {P : String → Axis → Binary64 → Prop}

/-- The sheet of a name is one of the sheets, and has the name. -/
theorem Workbook.mem_of_sheet {book : Workbook} {name : String} {sheet : Worksheet}
    (h : book.sheet name = .ok sheet) : sheet ∈ book.sheets ∧ sheet.name = name := by
  rw [Workbook.sheet] at h
  split at h
  · rename_i found hfound
    cases h
    have hname : sheet.name = name := by simpa using List.find?_some hfound
    exact ⟨mem_of_sheet? hfound, hname⟩
  · cases h

/-- An update of one sheet leaves the sizes of the others. -/
theorem Workbook.AllOwnSizes.update {book : Workbook} (h : book.AllOwnSizes P) {name : String}
    {f : Worksheet → Worksheet} (hname : ∀ sheet, (f sheet).name = sheet.name)
    (hf : ∀ sheet, sheet.AllOwnSizes (P name) → (f sheet).AllOwnSizes (P name)) :
    (book.update name f).AllOwnSizes P := by
  intro sheet hsheet
  obtain ⟨before, hbefore, rfl⟩ := List.mem_map.1 hsheet
  split
  · rename_i heq
    rw [hname, heq]
    exact hf before (heq ▸ h before hbefore)
  · exact h before hbefore

/-- A view that is put in the place of another one brings its own sizes. -/
theorem FileView.AllSizes.put {view : FileView} (h : view.AllSizes P) {state : SheetView}
    (hstate : state.AllSizes (P state.sheet)) : (view.put state).AllSizes P := by
  obtain ⟨visible, sheets⟩ := view
  have hsheets : ∀ other ∈ FileView.replaceFirst state sheets,
      other.AllSizes (P other.sheet) := by
    replace h : ∀ other ∈ sheets, other.AllSizes (P other.sheet) := h
    induction sheets with
    | nil => exact List.forall_mem_singleton.2 hstate
    | cons head rest ih =>
      obtain ⟨hhead, hrest⟩ := List.forall_mem_cons.1 h
      rw [FileView.replaceFirst]
      split
      · exact List.forall_mem_cons.2 ⟨hstate, hrest⟩
      · exact List.forall_mem_cons.2 ⟨hhead, ih hrest⟩
  exact hsheets

/-- The view of a sheet that is taken from those of a file, or is a new one. -/
theorem FileView.AllSizes.sheet {view : FileView} (h : view.AllSizes P) (name : String) :
    ((view.sheet? name).getD { sheet := name }).AllSizes (P name) := by
  cases hfound : view.sheet? name with
  | none =>
    intro axis i size hsize
    cases axis <;> cases hsize
  | some state =>
    have hname : state.sheet = name := by simpa using List.find?_some hfound
    exact hname ▸ h state (List.mem_of_find?_eq_some hfound)

namespace OpenFile

variable {file after : OpenFile} {options : GridOptions} {operation : Operation}

/-- Every size that a line has of its own, or had when its sheet was last shown, has the
property. -/
structure AllOwnSizes (P : String → Axis → Binary64 → Prop) (file : OpenFile) : Prop where
  /-- The sizes of the lines. -/
  book : file.book.AllOwnSizes P
  /-- The sizes that are kept in the views. -/
  view : file.view.AllSizes P

namespace AllOwnSizes

/-- Common changes set no size. -/
theorem of_common (h : Common file after) (hsizes : file.AllOwnSizes P) : after.AllOwnSizes P := by
  cases h with
  | write hsheet a value =>
    refine ⟨hsizes.book.update (fun sheet => sheet.name_put a value) fun sheet hown => ?_,
      hsizes.view⟩
    exact hown.of_sizes (sheet.sizes_put a value)
  | @capture sheet hsheet =>
    obtain ⟨hmem, hname⟩ := Workbook.mem_of_sheet hsheet
    have hown : sheet.AllOwnSizes (P file.active) := hname ▸ hsizes.book sheet hmem
    -- what is kept are the sizes that the lines of the sheet have
    have hcurrent : (file.currentView sheet).AllSizes (P file.active) := by
      intro axis
      cases axis with
      | row => exact hown .row
      | column => exact hown .column
    exact ⟨hsizes.book, hsizes.view.put hcurrent⟩
  | attend => exact ⟨hsizes.book, hsizes.view⟩
  | reach => exact ⟨hsizes.book, hsizes.view⟩
  | cover anchor hrows hcolumns =>
    refine ⟨hsizes.book.update (fun sheet => sheet.name_cover _) fun sheet hown => ?_,
      hsizes.view⟩
    exact hown.of_sizes (sheet.sizes_cover _)

/-- A sheet that is shown gets the sizes that the view has for it. -/
theorem of_restore {name : String} (h : file.restore options name = .ok after)
    (hsizes : file.AllOwnSizes P) : after.AllOwnSizes P := by
  obtain ⟨sheet, -, h⟩ := Except.bind_eq_ok_iff.1 h
  cases h
  refine ⟨hsizes.book.update (fun _ => rfl) fun sheet hown => ?_, hsizes.view⟩
  exact hown.resized (hsizes.view.sheet name)

/-- The only operation that sets a size makes it one pixel at least. -/
theorem of_own (hlarge : ∀ name axis size, 1 ≤ size → P name axis size)
    (h : Own options operation file after) (hsizes : file.AllOwnSizes P) :
    after.AllOwnSizes P := by
  cases h with
  | insertLine file axis i =>
    exact ⟨hsizes.book.update (fun sheet => sheet.name_insertLine axis i) fun _ hown =>
      hown.insertLine axis i, hsizes.view⟩
  | deleteLine file axis i =>
    exact ⟨hsizes.book.update (fun sheet => sheet.name_deleteLine axis i) fun _ hown =>
      hown.deleteLine axis i, hsizes.view⟩
  | resize file axis i size =>
    refine ⟨hsizes.book.update (fun sheet => sheet.name_mapSizes axis _) fun _ hown => ?_,
      hsizes.view⟩
    exact hown.mapSizes (fun _ => rfl) fun hown =>
      hown.set i (hlarge _ _ _ (Binary64.one_le_larger_one size))
  | @takeBack edit edits hedits =>
    refine ⟨hsizes.book.update (fun sheet => sheet.name_put _ _) fun sheet hown => ?_,
      hsizes.view⟩
    exact hown.of_sizes (sheet.sizes_put _ _)
  | restore hrestore => exact of_restore hrestore hsizes
  | _ => exact ⟨hsizes.book, hsizes.view⟩

/-- A file that is opened has the sizes of its workbook, and those of its view. -/
theorem of_ofBook {path : String} {book : Workbook} {view : FileView}
    (h : OpenFile.ofBook path book view options = .ok file) (hbook : book.AllOwnSizes P)
    (hview : view.AllSizes P) : file.AllOwnSizes P := by
  rw [ofBook_eq_restore] at h
  refine of_restore h ⟨fun sheet hsheet => ?_, hview⟩
  obtain ⟨before, hbefore, rfl⟩ := List.mem_map.1 hsheet
  split at hbefore
  -- the sheet of a blank workbook has no lines of another size
  · obtain rfl := List.mem_singleton.1 hbefore
    intro axis i size hsize
    cases axis <;> cases hsize
  · intro axis
    cases axis with
    | row => exact hbook before hbefore .row
    | column => exact hbook before hbefore .column

end AllOwnSizes

end OpenFile

/-! ### The editor -/

namespace Editor

variable {editor : Editor} {file : OpenFile} {book : Workbook} {view : FileView}

/-- The open file was opened with the workbook and the view; what came after neither opened nor
closed a file. -/
def OpenedWith (editor : Editor) (book : Workbook) (view : FileView) : Prop :=
  ∃ before path saved events, Reachable before ∧ before.readBook path = .ok book ∧
    view = saved.getD {} ∧
    (∀ operation, .perform operation ∈ events → operation.replacesFile = false) ∧
    editor = (before.perform (.openFile path saved)).2.through events

/-- A file stays the one that was opened with a workbook and a view until another one is opened. -/
theorem OpenedWith.on (h : editor.OpenedWith book view) (event : Event)
    (hevent : ∀ operation, event = .perform operation → operation.replacesFile = false) :
    (editor.on event).OpenedWith book view := by
  obtain ⟨before, path, saved, events, reached, hbook, hview, hkeeps, rfl⟩ := h
  refine ⟨before, path, saved, events ++ [event], reached, hbook, hview, ?_, ?_⟩
  · intro operation hmem
    rcases List.mem_append.1 hmem with hmem | hmem
    · exact hkeeps operation hmem
    · exact hevent operation (List.mem_singleton.1 hmem).symm
  · rw [through, through, List.foldl_append]
    rfl

/-- An open file was opened. -/
theorem Reachable.exists_openedWith (reached : Reachable editor)
    (hfile : editor.file.isSome = true) : ∃ book view, editor.OpenedWith book view := by
  induction reached with
  | start store clipboard options => cases hfile
  | provide reached store clipboard ih =>
    obtain ⟨book, view, hopened⟩ := ih hfile
    refine ⟨book, view, hopened.on (.provide store clipboard) fun operation hevent => ?_⟩
    cases hevent
  | @perform editor reached operation ih =>
    cases hkeeps : operation.replacesFile with
    | true =>
      cases operation with
      | openFile path saved =>
        rcases openFile_cases editor path saved with ⟨book, file, _, _, hbook, -⟩ | ⟨_, hrefused⟩
        · exact ⟨book, saved.getD {}, editor, path, saved, [], reached, hbook, rfl,
            fun _ hmem => absurd hmem List.not_mem_nil, rfl⟩
        -- a file that is refused leaves the one before open
        · rw [Editor.perform, hrefused] at hfile ⊢
          exact ih hfile
      | close => cases hfile
      | _ => cases hkeeps
    | false =>
      -- no operation but opening brings a file
      cases hbefore : editor.file with
      | none =>
        rw [file_perform_of_none hbefore hkeeps] at hfile
        cases hfile
      | some before =>
        obtain ⟨book, view, hopened⟩ := ih (by rw [hbefore]; rfl)
        refine ⟨book, view, hopened.on (.perform operation) fun other hother => ?_⟩
        cases hother
        exact hkeeps

/-- A workbook or a view gives a line of a sheet its size. -/
def GivesSize (book : Workbook) (view : FileView) (name : String) (axis : Axis)
    (size : Binary64) : Prop :=
  (∃ sheet ∈ book.sheets, sheet.name = name ∧ ∃ i, (sheet.sizes axis).own.get? i = some size) ∨
    ∃ state ∈ view.sheets, state.sheet = name ∧ ∃ i, (state.sizes axis).get? i = some size

/-- What a line has of its own is at least one pixel, or was given by the file or the view. -/
theorem OpenedWith.allOwnSizes (h : editor.OpenedWith book view) (hfile : editor.file = some file) :
    file.AllOwnSizes fun name axis size => 1 ≤ size ∨ GivesSize book view name axis size := by
  obtain ⟨before, path, saved, events, reached, hbook, rfl, hkeeps, rfl⟩ := h
  obtain ⟨opened, hopened, -⟩ :=
    OpenFile.content_ofBook path book (saved.getD {}) before.options
  have hbefore : (before.perform (.openFile path saved)).2.file = some opened := by
    simp only [perform, openFile, hbook, Except.ok_bind, hopened]
  have hgiven : opened.AllOwnSizes fun name axis size =>
      1 ≤ size ∨ GivesSize book (saved.getD {}) name axis size :=
    .of_ofBook hopened
      (fun sheet hsheet axis i size hsize => .inr (.inl ⟨sheet, hsheet, rfl, i, hsize⟩))
      fun state hstate axis i size hsize => .inr (.inr ⟨state, hstate, rfl, i, hsize⟩)
  obtain ⟨after, hafter, hsizes⟩ := keeps_through (reached.perform (.openFile path saved)) hbefore
    hgiven hkeeps (fun _ _ hcommon h => h.of_common hcommon)
    fun _ _ _ _ _ hown h => h.of_own (fun _ _ _ => .inl) hown
  cases hfile.symm.trans hafter
  exact hsizes

/-- In a reachable editor, common sizes are at least one pixel, and so is the size of each line
that did not get it from the file or the view that were opened. -/
theorem one_le_size_or_given (reached : Reachable editor) (hfile : editor.file = some file) :
    ∃ book view, editor.OpenedWith book view ∧ ∀ sheet ∈ file.book.sheets, ∀ axis,
      1 ≤ (sheet.sizes axis).common ∧
        ∀ i, 1 ≤ (sheet.sizes axis).size i ∨
          GivesSize book view sheet.name axis ((sheet.sizes axis).size i) := by
  obtain ⟨book, view, hopened⟩ := reached.exists_openedWith (Option.isSome_iff_exists.2 ⟨_, hfile⟩)
  refine ⟨book, view, hopened, fun sheet hsheet axis => ?_⟩
  have hcommon : 1 ≤ (sheet.sizes axis).common := by
    rw [reached.hasCommonSizes hfile sheet hsheet axis]
    cases axis <;> exact Binary64.one_le_larger_one _
  refine ⟨hcommon, fun i => ?_⟩
  -- a line has a size of its own, or else the common one
  rw [Sizes.size]
  cases hown : (sheet.sizes axis).own.get? i with
  | none => exact .inl hcommon
  | some size => exact (hopened.allOwnSizes hfile).book sheet hsheet axis i size hown

/-- A document with a sheet whose first column is a quarter of a pixel wide. -/
def narrowColumn : Json :=
  .object [("SheetNames", .array [.string "a"]),
    ("Sheets", .object [("a", .object [("!cols", .array [.object [("wpx", .ofBinary64 0.25)]])])])]

/-- An editor that has opened it, with a view in which a row is half a pixel high, and has resized
another row to a quarter of a pixel. -/
def narrowLines : Editor :=
  Editor.after { store := FileStore.put {} "plan.json" (utf8 narrowColumn.compact) } [
    .openFile "plan.json" (some ⟨"a", [{ sheet := "a", rowHeights := .ofList [(3, 0.5)] }]⟩),
    .command (.resize .row 4 0.25)]

/-- The sizes of the file and of the view are taken as they are, the one that is set later is
not. -/
theorem narrowLines_sizes :
    ∃ file sheet, narrowLines.Reachable ∧ narrowLines.file = some file ∧
      sheet ∈ file.book.sheets ∧ sheet.columns.size 0 = 0.25 ∧ sheet.rows.size 3 = 0.5 ∧
      sheet.rows.size 4 = 1 := by
  have hopen : narrowLines.file.isSome = true := by decide +kernel
  have hsizes : ∀ file ∈ narrowLines.file, ∃ sheet ∈ file.book.sheets,
      sheet.columns.size 0 = 0.25 ∧ sheet.rows.size 3 = 0.5 ∧ sheet.rows.size 4 = 1 := by
    decide +kernel
  have hfile := (Option.some_get hopen).symm
  obtain ⟨sheet, hsheet, hsizes⟩ := hsizes _ hfile
  exact ⟨_, sheet, .of_after (.start _ _ _) _, hfile, hsheet, hsizes⟩

/-- A quarter is less than one. -/
theorem not_one_le_quarter : ¬ (1 : Binary64) ≤ 0.25 := by decide +kernel

/-- The narrow column is as wide as the file says, or as the view does; the row that was resized is
one pixel high. -/
theorem one_le_size_or_given_narrowLines :
    ∃ file sheet book view, narrowLines.file = some file ∧ sheet ∈ file.book.sheets ∧
      narrowLines.OpenedWith book view ∧ GivesSize book view sheet.name .column 0.25 ∧
      1 ≤ sheet.rows.common ∧ sheet.rows.size 4 = 1 := by
  obtain ⟨file, sheet, reached, hfile, hsheet, hcolumn, -, hresized⟩ := narrowLines_sizes
  obtain ⟨book, view, hopened, hall⟩ := one_le_size_or_given reached hfile
  have hgiven := (hall sheet hsheet .column).2 0
  rw [Worksheet.sizes, hcolumn] at hgiven
  exact ⟨file, sheet, book, view, hfile, hsheet, hopened,
    hgiven.resolve_left not_one_le_quarter, (hall sheet hsheet .row).1, hresized⟩

/-- A column may be narrower than a pixel because the file says so, and a row lower because the view
does. -/
theorem line_below_one_pixel :
    narrowLines.Reachable ∧ ∃ file sheet, narrowLines.file = some file ∧
      sheet ∈ file.book.sheets ∧ ¬ 1 ≤ (sheet.sizes .column).size 0 ∧
      ¬ 1 ≤ (sheet.sizes .row).size 3 := by
  have hhalf : ¬ (1 : Binary64) ≤ 0.5 := by decide +kernel
  obtain ⟨file, sheet, reached, hfile, hsheet, hcolumn, hrow, -⟩ := narrowLines_sizes
  refine ⟨reached, file, sheet, hfile, hsheet, ?_, ?_⟩
  · rw [Worksheet.sizes, hcolumn]
    exact not_one_le_quarter
  · rw [Worksheet.sizes, hrow]
    exact hhalf

end Editor

end EnsembleDesk

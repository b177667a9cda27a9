import EnsembleDesk.Proofs.Book.Reading
import EnsembleDesk.Proofs.Sheet.Sizes
/-!
# Workbooks that are built

A sheet is built by edits, one after the other, of an empty sheet, and a workbook by adding sheets.
Whatever the edits are, a sheet stays regular (`SheetEdit.regular_apply`): its used range holds its
cells, and its lines have the sizes of an empty sheet but for real exceptions. So all sheets of a
workbook that was built are regular, and they have different names (`Workbook.orderly_built`,
`Workbook.regular_built`).
-/

namespace EnsembleDesk

/-- An edit of a sheet. -/
inductive SheetEdit where
  /-- Writes a cell. -/
  | set (a : Address) (value : CellValue)
  /-- Clears a cell. -/
  | clear (a : Address)
  /-- Extends the used range. -/
  | cover (range : CellRange)
  /-- Inserts a row or column. -/
  | insertLine (axis : Axis) (position : Index)
  /-- Deletes a row or column. -/
  | deleteLine (axis : Axis) (position : Index)
  /-- Gives a row or column a size. -/
  | resize (axis : Axis) (position : Index) (size : Binary64)

/-- The sheet after an edit. -/
def SheetEdit.apply (sheet : Worksheet) : SheetEdit → Worksheet
  | set a value => sheet.set a value
  | clear a => sheet.clear a
  | cover range => sheet.cover range
  | insertLine axis position => sheet.insertLine axis position
  | deleteLine axis position => sheet.deleteLine axis position
  | resize axis position size => sheet.mapSizes axis (·.set position size)

/-- The sheet that edits make of an empty one. -/
def Worksheet.built (name : String) (edits : List SheetEdit) : Worksheet :=
  edits.foldl SheetEdit.apply (.empty name)

/-- The workbook of sheets that are built in order. -/
def Workbook.built (sheets : List (String × List SheetEdit)) : Workbook :=
  sheets.foldl (fun book sheet => book.push (.built sheet.1 sheet.2)) .empty

namespace Worksheet

variable {sheet : Worksheet}

theorem sizes_mapSizes (sheet : Worksheet) (axis other : Axis)
    (f : Sizes Binary64 → Sizes Binary64) :
    (sheet.mapSizes axis f).sizes other =
      if other = axis then f (sheet.sizes other) else sheet.sizes other := by
  cases axis <;> cases other <;> rfl

/-- What an edit never breaks: the used range holds the cells, and along both axes the lines have
the sizes of an empty sheet, but for exceptions. -/
structure Regular (sheet : Worksheet) : Prop where
  /-- The used range holds every cell. -/
  covered : sheet.Covered
  /-- The common sizes are those of an empty sheet. -/
  common : ∀ axis, (sheet.sizes axis).common = ((Worksheet.empty sheet.name).sizes axis).common
  /-- No line has the common size as a size of its own. -/
  exceptional : ∀ axis, (sheet.sizes axis).Exceptional

namespace Regular

theorem empty (name : String) : (Worksheet.empty name).Regular := by
  refine ⟨.empty name, fun _ => rfl, fun axis => ?_⟩
  cases axis <;> exact Sizes.Exceptional.uniform _

/-- A sheet of the same sizes whose cells are covered. -/
theorem of_sizes {other : Worksheet} (h : sheet.Regular) (hcovered : other.Covered)
    (hsizes : ∀ axis, other.sizes axis = sheet.sizes axis) : other.Regular := by
  refine ⟨hcovered, fun axis => ?_, fun axis => ?_⟩
  · rw [hsizes]
    exact h.common axis
  · rw [hsizes]
    exact h.exceptional axis

/-- A change of the sizes along an axis that keeps them exceptions of the common one. -/
theorem mapSizes {other : Worksheet} (h : sheet.Regular) (hcovered : other.Covered)
    (axis : Axis) (f : Sizes Binary64 → Sizes Binary64)
    (hsizes : ∀ along, other.sizes along = (sheet.mapSizes axis f).sizes along)
    (hcommon : ∀ sizes, (f sizes).common = sizes.common)
    (hf : ∀ sizes, sizes.Exceptional → (f sizes).Exceptional) : other.Regular := by
  refine ⟨hcovered, fun along => ?_, fun along => ?_⟩
  · rw [hsizes, sizes_mapSizes]
    split
    · rw [hcommon]
      exact h.common along
    · exact h.common along
  · rw [hsizes, sizes_mapSizes]
    split
    · exact hf _ (h.exceptional along)
    · exact h.exceptional along

end Regular

end Worksheet

/-- Every edit keeps a sheet regular. -/
theorem SheetEdit.regular_apply {sheet : Worksheet} (h : sheet.Regular) (edit : SheetEdit) :
    (edit.apply sheet).Regular := by
  cases edit with
  | set a value => exact h.of_sizes (h.covered.set a value) fun axis => by cases axis <;> rfl
  | clear a => exact h.of_sizes (h.covered.clear a) fun axis => by cases axis <;> rfl
  | cover range => exact h.of_sizes (h.covered.cover range) fun axis => by cases axis <;> rfl
  | insertLine axis position =>
    refine h.mapSizes (h.covered.insertLine axis position) axis (·.afterInsertion position)
      (fun along => ?_) (fun _ => rfl) fun sizes hsizes => hsizes.move _
    cases along <;> rfl
  | deleteLine axis position =>
    refine h.mapSizes (h.covered.deleteLine axis position) axis (·.afterDeletion position)
      (fun along => ?_) (fun _ => rfl) fun sizes hsizes => hsizes.move _
    cases along <;> rfl
  | resize axis position size =>
    -- a size changes neither the cells nor the used range
    have hcovered := h.covered.of_cells (Worksheet.cells_mapSizes sheet axis (·.set position size))
      (Worksheet.used_mapSizes sheet axis (·.set position size))
    exact h.mapSizes hcovered axis (·.set position size) (fun _ => rfl)
      (fun sizes => sizes.common_set position size) fun sizes hsizes => hsizes.set position size

theorem Worksheet.regular_built (name : String) (edits : List SheetEdit) :
    (built name edits).Regular :=
  List.foldlRecOn _ _ (Regular.empty name) fun _ hsheet edit _ => edit.regular_apply hsheet

namespace Workbook

/-- The sheets of a workbook that was built have different names and are covered. -/
theorem orderly_built (sheets : List (String × List SheetEdit)) : (built sheets).Orderly :=
  List.foldlRecOn _ _ Orderly.empty fun _ hbook sheet _ =>
    hbook.push (Worksheet.regular_built sheet.1 sheet.2).covered

/-- The sheets of a workbook that was built are regular. -/
theorem regular_built (sheets : List (String × List SheetEdit)) :
    ∀ sheet ∈ (built sheets).sheets, sheet.Regular := by
  let P (book : Workbook) : Prop := ∀ sheet ∈ book.sheets, sheet.Regular
  have hempty : P empty := fun _ hmem => absurd hmem List.not_mem_nil
  refine List.foldlRecOn (motive := P) _ _ hempty fun book hbook named _ sheet hmem => ?_
  rcases mem_sheets_push hmem with rfl | hmem
  · exact Worksheet.regular_built named.1 named.2
  · exact hbook sheet hmem

end Workbook

end EnsembleDesk

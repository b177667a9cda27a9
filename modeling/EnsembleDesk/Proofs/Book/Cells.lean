import EnsembleDesk.Book.Basic
import EnsembleDesk.Proofs.Sheet.Equality
import EnsembleDesk.Proofs.Sheet.Tables
/-!
# Cells of a workbook

A workbook is looked at as a table of cells by sheet name and address, `Workbook.cell?`. Writing a
cell of a sheet changes that table at one place (`Workbook.cell?_update_put`), and what changes a
sheet without touching its cells does not change the table (`Workbook.cell?_update_of_cells`).

`Workbook.Alike` relates workbooks whose sheets have the same names, in the same order, and whose
cells are alike.
-/

namespace EnsembleDesk

namespace Worksheet

/-- A write changes the value of its own cell alone. -/
theorem value_set (sheet : Worksheet) (a b : Address) (v : CellValue) :
    (sheet.set a v).value b = if a = b then some v else sheet.value b := by
  simp only [value, set, Sparse.get?_insert, Sparse.number_eq_iff]

/-- Clearing a cell takes its own value alone. -/
theorem value_clear (sheet : Worksheet) (a b : Address) :
    (sheet.clear a).value b = if a = b then none else sheet.value b := by
  simp only [value, clear, Sparse.get?_erase, Sparse.number_eq_iff]

/-- Writing or clearing a cell changes that cell alone. -/
theorem value_put (sheet : Worksheet) (a b : Address) (v : Option CellValue) :
    (sheet.put a v).value b = if a = b then v else sheet.value b := by
  cases v with
  | none => exact value_clear sheet a b
  | some v => exact value_set sheet a b v

/-- A sheet keeps its name when a cell is written or cleared. -/
@[simp]
theorem name_put (sheet : Worksheet) (a : Address) (v : Option CellValue) :
    (sheet.put a v).name = sheet.name := by
  cases v <;> rfl

/-- A sheet keeps its name when its used range grows. -/
@[simp]
theorem name_cover (sheet : Worksheet) (range : CellRange) :
    (sheet.cover range).name = sheet.name := rfl

/-- A change of sizes keeps the name of a sheet. -/
@[simp]
theorem name_mapSizes (sheet : Worksheet) (axis : Axis) (f : Sizes Binary64 → Sizes Binary64) :
    (sheet.mapSizes axis f).name = sheet.name := by
  cases axis <;> rfl

/-- A change of sizes keeps the cells. -/
@[simp]
theorem cells_mapSizes (sheet : Worksheet) (axis : Axis) (f : Sizes Binary64 → Sizes Binary64) :
    (sheet.mapSizes axis f).cells = sheet.cells := by
  cases axis <;> rfl

/-- A change of sizes keeps the used range. -/
@[simp]
theorem used_mapSizes (sheet : Worksheet) (axis : Axis) (f : Sizes Binary64 → Sizes Binary64) :
    (sheet.mapSizes axis f).used = sheet.used := by
  cases axis <;> rfl

/-- A sheet keeps its name when a line is inserted. -/
@[simp]
theorem name_insertLine (sheet : Worksheet) (axis : Axis) (i : Index) :
    (sheet.insertLine axis i).name = sheet.name :=
  name_mapSizes sheet axis _

/-- A sheet keeps its name when a line is deleted. -/
@[simp]
theorem name_deleteLine (sheet : Worksheet) (axis : Axis) (i : Index) :
    (sheet.deleteLine axis i).name = sheet.name :=
  name_mapSizes sheet axis _

end Worksheet

namespace Workbook

/-! ### Sheets -/

/-- The names of a workbook are those under which a sheet is found. -/
theorem mem_names_iff {book : Workbook} {name : String} :
    name ∈ book.names ↔ ∃ sheet, book.sheet? name = some sheet := by
  rw [names, List.mem_map, ← Option.isSome_iff_exists, sheet?, List.find?_isSome]
  simp

/-- A sheet that is found is one of the workbook. -/
theorem mem_of_sheet? {book : Workbook} {name : String} {sheet : Worksheet}
    (h : book.sheet? name = some sheet) : sheet ∈ book.sheets :=
  List.mem_of_find?_eq_some h

/-- A sheet that is there is given. -/
theorem sheet_eq_ok {book : Workbook} {name : String} {sheet : Worksheet}
    (h : book.sheet? name = some sheet) : book.sheet name = .ok sheet := by
  rw [Workbook.sheet, h]

/-- A sheet that is not there is refused by its name. -/
theorem sheet_eq_error {book : Workbook} {name : String} (h : name ∉ book.names) :
    book.sheet name = .error (.unknownSheet name) := by
  cases hsheet : book.sheet? name with
  | none => rw [Workbook.sheet, hsheet]
  | some sheet => exact absurd (mem_names_iff.2 ⟨sheet, hsheet⟩) h

/-- A change that keeps the name of a sheet keeps the names of all. -/
theorem names_update {f : Worksheet → Worksheet} (hf : ∀ sheet, (f sheet).name = sheet.name)
    (book : Workbook) (name : String) : (book.update name f).names = book.names := by
  rw [names, names, update, List.map_map]
  refine List.map_congr_left fun sheet _ => ?_
  simp only [Function.comp_apply]
  split
  · exact hf sheet
  · rfl

/-- An update changes the sheet of its own name alone. -/
theorem sheet?_update {f : Worksheet → Worksheet} (hf : ∀ sheet, (f sheet).name = sheet.name)
    (book : Workbook) (name other : String) :
    (book.update name f).sheet? other =
      if other = name then (book.sheet? other).map f else book.sheet? other := by
  obtain ⟨sheets⟩ := book
  simp only [sheet?, update]
  induction sheets with
  | nil => simp
  | cons sheet sheets ih =>
    have hkept : (if sheet.name = name then f sheet else sheet).name = sheet.name := by
      split
      · exact hf sheet
      · rfl
    rw [List.map_cons]
    by_cases hother : sheet.name = other
    · rw [List.find?_cons_of_pos (by simpa [hkept] using hother),
        List.find?_cons_of_pos (by simpa using hother), Option.map_some, hother]
      split <;> rfl
    · rw [List.find?_cons_of_neg (by simpa [hkept] using hother),
        List.find?_cons_of_neg (by simpa using hother), ih]

/-- What holds of all sheets still does after one of them was changed. -/
theorem forall_mem_update {P Q : Worksheet → Prop} {f : Worksheet → Worksheet}
    (hsame : ∀ sheet, P sheet → Q sheet) (hf : ∀ sheet, P sheet → Q (f sheet))
    {book : Workbook} (h : ∀ sheet ∈ book.sheets, P sheet) (name : String) :
    ∀ sheet ∈ (book.update name f).sheets, Q sheet := by
  intro sheet hmem
  obtain ⟨before, hbefore, rfl⟩ := List.mem_map.1 hmem
  split
  · exact hf before (h before hbefore)
  · exact hsame before (h before hbefore)

/-! ### Cells -/

/-- The value of a cell of the sheet of a name. -/
def cell? (book : Workbook) (name : String) (a : Address) : Option CellValue :=
  (book.sheet? name).bind (·.value a)

/-- The cells of a name are those of the sheet that is found under it. -/
theorem cell?_eq_value {book : Workbook} {name : String} {sheet : Worksheet}
    (h : book.sheet? name = some sheet) (a : Address) : book.cell? name a = sheet.value a := by
  rw [cell?, h, Option.bind_some]

/-- Writing a cell of a sheet changes that cell alone. -/
theorem cell?_update_put {book : Workbook} {name : String} (hname : name ∈ book.names)
    (a : Address) (v : Option CellValue) (other : String) (b : Address) :
    (book.update name (·.put a v)).cell? other b =
      if other = name ∧ a = b then v else book.cell? other b := by
  obtain ⟨sheet, hsheet⟩ := mem_names_iff.1 hname
  rw [cell?, cell?, sheet?_update (fun sheet => Worksheet.name_put sheet a v)]
  by_cases hother : other = name
  · subst hother
    rw [if_pos rfl, hsheet]
    simp [Worksheet.value_put]
  · simp [hother]

/-- A change of a sheet that keeps its cells keeps all cells. -/
theorem cell?_update_of_cells {f : Worksheet → Worksheet}
    (hname : ∀ sheet, (f sheet).name = sheet.name) (hcells : ∀ sheet, (f sheet).cells = sheet.cells)
    (book : Workbook) (name other : String) (a : Address) :
    (book.update name f).cell? other a = book.cell? other a := by
  rw [cell?, cell?, sheet?_update hname]
  split
  · cases book.sheet? other with
    | none => rfl
    | some sheet => simp [Worksheet.value, hcells]
  · rfl

/-! ### Workbooks that are alike -/

/-- The workbooks have sheets of the same names, and their cells are alike. -/
structure Alike (book other : Workbook) : Prop where
  /-- The names of the sheets are the same. -/
  names : book.names = other.names
  /-- The cells are alike. -/
  cells : ∀ name a, CellValue.Alike (book.cell? name a) (other.cell? name a)

namespace Alike

theorem refl (book : Workbook) : book.Alike book := ⟨rfl, fun _ _ => .refl _⟩

theorem trans {first second third : Workbook} (h : first.Alike second) (h' : second.Alike third) :
    first.Alike third :=
  ⟨h.names.trans h'.names, fun name a => (h.cells name a).trans (h'.cells name a)⟩

/-- A change of a sheet that keeps its name and its cells gives a workbook that is alike. -/
theorem update_of_cells {f : Worksheet → Worksheet} (hname : ∀ sheet, (f sheet).name = sheet.name)
    (hcells : ∀ sheet, (f sheet).cells = sheet.cells) (book : Workbook) (name : String) :
    (book.update name f).Alike book :=
  ⟨names_update hname book name, fun other a =>
    .inl (cell?_update_of_cells hname hcells book name other a)⟩

end Alike

/-- The workbooks have sheets of the same names, and the same values in their cells. -/
def SameCells (book other : Workbook) : Prop :=
  book.names = other.names ∧
    ∀ name a, CellValue.sameCell (book.cell? name a) (other.cell? name a) = true

/-- Every number in a cell is finite. -/
def FiniteCells (book : Workbook) : Prop :=
  ∀ name a, ∀ v ∈ book.cell? name a, v.IsFinite

/-- Finite entries are finite cells. -/
theorem finiteCells_of_entries {book : Workbook}
    (h : ∀ sheet ∈ book.sheets, ∀ cell ∈ sheet.cells.entries, cell.2.IsFinite) :
    book.FiniteCells := by
  intro name a v hv
  obtain ⟨sheet, hsheet, hvalue⟩ := Option.bind_eq_some_iff.1 hv
  exact h sheet (mem_of_sheet? hsheet) (a, v) (Sparse.get?_eq_some_iff.1 hvalue)

/-- Workbooks that are alike have the same values in their cells, if one of them has finite numbers
only. -/
theorem Alike.sameCells {book other : Workbook} (h : book.Alike other)
    (hfinite : other.FiniteCells) : book.SameCells other := by
  refine ⟨h.names, fun name a => ?_⟩
  rw [CellValue.sameCell_comm]
  exact (h.cells name a).symm.sameCell (hfinite name a)

end Workbook

end EnsembleDesk

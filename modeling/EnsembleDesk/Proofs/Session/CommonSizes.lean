import EnsembleDesk.Proofs.Book.Built
import EnsembleDesk.Proofs.Session.Opening
/-!
# Common sizes in the editor

A file is opened with the common sizes that the user chose, and no elementary change touches them:
lines get sizes of their own, or move with those they have. So in every reachable editor the common
sizes of all sheets are the chosen ones.

## Main results

* `Editor.Reachable.hasCommonSizes`: the lines of all sheets have the common sizes of the options.
-/

namespace EnsembleDesk

/-- The common size of lines that the user chose, of at least one pixel. -/
def GridOptions.common (options : GridOptions) : Axis → Binary64
  | .row => Sizes.atLeastOne options.rowHeight
  | .column => Sizes.atLeastOne options.columnWidth

namespace Worksheet

/-- A written cell changes no sizes. -/
theorem sizes_put (sheet : Worksheet) (a : Address) (value : Option CellValue) (axis : Axis) :
    (sheet.put a value).sizes axis = sheet.sizes axis := by
  cases value <;> cases axis <;> rfl

/-- The used range can grow without a change of sizes. -/
theorem sizes_cover (sheet : Worksheet) (range : CellRange) (axis : Axis) :
    (sheet.cover range).sizes axis = sheet.sizes axis := by
  cases axis <;> rfl

/-- A change that keeps the common sizes along both axes. -/
def KeepsCommon (f : Worksheet → Worksheet) : Prop :=
  ∀ sheet axis, ((f sheet).sizes axis).common = (sheet.sizes axis).common

namespace KeepsCommon

/-- A change that keeps all sizes. -/
theorem of_sizes {f : Worksheet → Worksheet}
    (h : ∀ sheet axis, (f sheet).sizes axis = sheet.sizes axis) : KeepsCommon f := by
  intro sheet axis
  rw [h]

/-- A change of the sizes along an axis. -/
theorem mapSizes {f : Worksheet → Worksheet} (axis : Axis)
    (change : Sizes Binary64 → Sizes Binary64)
    (hsizes : ∀ sheet other, (f sheet).sizes other = (sheet.mapSizes axis change).sizes other)
    (hcommon : ∀ sizes, (change sizes).common = sizes.common) : KeepsCommon f := by
  intro sheet other
  rw [hsizes, sizes_mapSizes]
  split
  · exact hcommon _
  · rfl

/-- Writing a cell keeps the common sizes. -/
theorem put (a : Address) (value : Option CellValue) : KeepsCommon (·.put a value) :=
  of_sizes fun sheet => sheet.sizes_put a value

/-- Growing the used range keeps the common sizes. -/
theorem cover (range : CellRange) : KeepsCommon (·.cover range) :=
  of_sizes fun sheet => sheet.sizes_cover range

/-- Inserting a line moves the sizes of single lines only. -/
theorem insertLine (axis : Axis) (i : Index) : KeepsCommon (·.insertLine axis i) :=
  mapSizes axis (·.afterInsertion i) (fun _ other => by cases other <;> rfl) fun _ => rfl

/-- Deleting a line moves the sizes of single lines only. -/
theorem deleteLine (axis : Axis) (i : Index) : KeepsCommon (·.deleteLine axis i) :=
  mapSizes axis (·.afterDeletion i) (fun _ other => by cases other <;> rfl) fun _ => rfl

/-- Resizing a line changes the size of that line only. -/
theorem resize (axis : Axis) (i : Index) (size : Binary64) :
    KeepsCommon (·.mapSizes axis (·.set i size)) :=
  mapSizes axis (·.set i size) (fun _ _ => rfl) fun sizes => sizes.common_set i size

/-- The sizes that a view restores are those of single lines. -/
theorem resized (view : SheetView) : KeepsCommon (OpenFile.resized · view) := by
  intro sheet axis
  cases axis
  · exact Sizes.common_setAll _ _
  · exact Sizes.common_setAll _ _

end KeepsCommon

end Worksheet

open Worksheet

namespace Workbook

/-- Along both axes, the lines of all sheets have the common sizes that the user chose. -/
def HasCommonSizes (book : Workbook) (options : GridOptions) : Prop :=
  ∀ sheet ∈ book.sheets, ∀ axis, (sheet.sizes axis).common = options.common axis

/-- A workbook that is opened gets the common sizes that the user chose. -/
theorem hasCommonSizes_opened (book : Workbook) (options : GridOptions) :
    (book.opened options).HasCommonSizes options := by
  intro sheet hsheet axis
  obtain ⟨before, -, rfl⟩ := List.mem_map.1 hsheet
  cases axis <;> rfl

/-- The common sizes of all sheets are kept by a change of one sheet that keeps its own. -/
theorem HasCommonSizes.update {book : Workbook} {options : GridOptions}
    (h : book.HasCommonSizes options) {f : Worksheet → Worksheet} (hf : KeepsCommon f)
    (name : String) : (book.update name f).HasCommonSizes options := by
  refine forall_mem_update (fun _ hsheet => hsheet) (fun sheet hsheet axis => ?_) h name
  rw [hf]
  exact hsheet axis

end Workbook

/-- An elementary change keeps the common sizes. -/
theorem Content.hasCommonSizes_apply {content : Content} {options : GridOptions}
    (h : content.book.HasCommonSizes options) (change : Change) :
    (content.apply change).book.HasCommonSizes options := by
  cases change with
  | write a value => exact h.update (.put a value) _
  | cover range => exact h.update (.cover range) _
  | insertLine axis i => exact h.update (.insertLine axis i) _
  | deleteLine axis i => exact h.update (.deleteLine axis i) _
  | resize axis i size => exact h.update (.resize axis i _) _
  | present name view =>
    rw [apply]
    split
    · exact h.update (.resized view) name
    · exact h
  | takeBack =>
    rw [apply]
    split
    · exact h
    · rename_i edit undo _
      exact h.update (.put edit.cell edit.old) edit.sheet
  | save => exact h

/-- In the open file, the lines of all sheets have the common sizes that the user chose. -/
theorem Editor.Reachable.hasCommonSizes {editor : Editor} (reached : Reachable editor)
    {file : OpenFile} (hfile : editor.file = some file) :
    file.book.HasCommonSizes editor.options := by
  refine (reached.content_induction (P := fun content =>
    content.book.HasCommonSizes editor.options) (fun other path book visible hoptions _ _ => ?_)
    (fun _ change _ h => Content.hasCommonSizes_apply h change) hfile).2
  rw [← hoptions]
  exact book.hasCommonSizes_opened other.options

end EnsembleDesk

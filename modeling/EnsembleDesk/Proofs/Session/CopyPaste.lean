import EnsembleDesk.Proofs.Session.Opening
import EnsembleDesk.Proofs.Session.Pasting
import EnsembleDesk.Proofs.Sheet.Equality
import EnsembleDesk.Proofs.Text.Tabbed
/-!
# Copying and pasting a block of cells

What is shown in the selected cells is put on the clipboard as rows of fields, and pasting reads the
fields as if they were typed. So a block is reproduced if its values come back from what is shown of
them (`CellValue.Copies`) and all its rows come back from their text. The rows do, with one
exception: the text of a single column whose last cell is empty ends with a line break, which is not
read, and a text without characters holds no row. `OpenFile.copiedRows` is the number of rows that
come back; the cells that the others would have been pasted into are left as they are.

## Main results

* `Editor.copy_paste_reproduces_block`: the rows of a block that come back are reproduced, and no
  other cell is changed;
* `Editor.copy_paste_loses_blank_cell`: an empty cell alone is not reproduced.
-/

namespace EnsembleDesk

/-! ### Values -/

namespace CellValue

/-- A value that comes back when what is shown of it is pasted. -/
structure Copies (v : CellValue) : Prop where
  /-- What is shown means the value. -/
  reads : sameCell (ofInput v.display.toList) (some v) = true
  /-- No tab is shown. -/
  no_tab : '\t' ∉ v.display.toList
  /-- No line feed is shown. -/
  no_feed : '\n' ∉ v.display.toList
  /-- No carriage return is shown. -/
  no_return : '\r' ∉ v.display.toList

instance (v : CellValue) : Decidable v.Copies :=
  decidable_of_iff (sameCell (ofInput v.display.toList) (some v) = true ∧
      '\t' ∉ v.display.toList ∧ '\n' ∉ v.display.toList ∧ '\r' ∉ v.display.toList)
    ⟨fun ⟨hreads, htab, hfeed, hreturn⟩ => ⟨hreads, htab, hfeed, hreturn⟩,
      fun h => ⟨h.reads, h.no_tab, h.no_feed, h.no_return⟩⟩

/-- Nothing is shown of an empty cell alone. -/
theorem Copies.display_eq_nil_iff {cell : Option CellValue} (h : ∀ v ∈ cell, v.Copies) :
    (displayCell cell).toList = [] ↔ cell = none := by
  cases cell with
  | none => simp [displayCell]
  | some v =>
    refine ⟨fun hnil => ?_, nofun⟩
    have hreads := (h v rfl).reads
    rw [show v.display.toList = [] from hnil] at hreads
    -- a text without characters means an empty cell, and not a value
    cases hreads

/-- A cell whose value comes back is reproduced by what is shown in it. -/
theorem Copies.sameCell_display {cell : Option CellValue} (h : ∀ v ∈ cell, v.Copies) :
    sameCell (ofInput (displayCell cell).toList) cell = true := by
  cases cell with
  | none => rfl
  | some v => exact (h v rfl).reads

end CellValue

/-! ### What is shown in a range -/

/-- The values of a function at the first numbers are a single one if and only if they are taken at
zero only, and it is the value there. -/
theorem map_range_eq_singleton_iff {α : Type} {f : Nat → α} {n : Nat} {x : α} :
    (List.range n).map f = [x] ↔ n = 1 ∧ f 0 = x := by
  match n with
  | 0 => simp
  | 1 => simp [List.range_succ]
  | n + 2 =>
    refine ⟨fun h => ?_, fun h => by omega⟩
    have hlength := congrArg List.length h
    simp at hlength

namespace OpenFile

variable {sheet : Worksheet} {range : CellRange}

/-- A range is shown with as many rows as it has. -/
theorem length_shownIn (sheet : Worksheet) (range : CellRange) :
    (shownIn sheet range).length = range.rows.length := by
  rw [shownIn, List.length_map, Span.length_lines]

/-- Each row is shown with as many fields as the range has columns. -/
theorem length_of_mem_shownIn {row : List (List Char)} (hrow : row ∈ shownIn sheet range) :
    row.length = range.columns.length := by
  obtain ⟨i, -, rfl⟩ := List.mem_map.1 hrow
  rw [List.length_map, Span.length_lines]

/-- Every field that is shown is what is shown in a cell of the range. -/
theorem exists_of_mem_shownIn {row : List (List Char)} (hrow : row ∈ shownIn sheet range)
    {field : List Char} (hfield : field ∈ row) :
    ∃ a ∈ range, field = (CellValue.displayCell (sheet.value a)).toList := by
  obtain ⟨i, hi, rfl⟩ := List.mem_map.1 hrow
  obtain ⟨j, hj, rfl⟩ := List.mem_map.1 hfield
  exact ⟨⟨i, j⟩, ⟨Span.mem_of_mem_lines hi, Span.mem_of_mem_lines hj⟩, rfl⟩

/-- The field in a row and a column is what is shown in the cell there. -/
theorem field?_shownIn (h : range.start.Fits range.rows.length range.columns.length) {r c : Nat}
    (hr : r < range.rows.length) (hc : c < range.columns.length) :
    Tabbed.field? (shownIn sheet range) r c =
      some (CellValue.displayCell (sheet.value (range.start.offset r c))).toList := by
  have hrow : range.rows.start.plus r = range.rows.start.offset r :=
    Index.plus_eq_offset (Nat.lt_of_lt_of_le (Nat.add_lt_add_left hr _) h.rows_le)
  have hcolumn : range.columns.start.plus c = range.columns.start.offset c :=
    Index.plus_eq_offset (Nat.lt_of_lt_of_le (Nat.add_lt_add_left hc _) h.columns_le)
  rw [Tabbed.field?, shownIn, List.getElem?_map, Span.getElem?_lines _ hr, Option.map_some,
    Option.bind_some, List.getElem?_map, Span.getElem?_lines _ hc, Option.map_some, hrow, hcolumn]
  rfl

/-- There are fields in the columns of the range alone. -/
theorem lt_of_field?_shownIn {r c : Nat} (h : (Tabbed.field? (shownIn sheet range) r c).isSome) :
    c < range.columns.length := by
  obtain ⟨field, hfield⟩ := Option.isSome_iff_exists.1 h
  obtain ⟨row, hrow, hfield⟩ := Tabbed.field?_eq_some_iff.1 hfield
  rw [← length_of_mem_shownIn (List.mem_of_getElem? hrow)]
  exact (List.getElem?_eq_some_iff.1 hfield).1

/-- A field of the first rows that are shown is within these rows and within the columns of the
range. -/
theorem lt_of_field?_take_shownIn {rows r c : Nat}
    (h : (Tabbed.field? ((shownIn sheet range).take rows) r c).isSome) :
    r < rows ∧ c < range.columns.length := by
  by_cases hr : r < rows
  · rw [Tabbed.field?_take hr] at h
    exact ⟨hr, lt_of_field?_shownIn h⟩
  · rw [Tabbed.field?, List.getElem?_take, if_neg hr] at h
    cases h

/-- What is shown of values that come back is told apart by its text. -/
theorem plain_shownIn (hcells : ∀ a ∈ range, ∀ v ∈ sheet.value a, v.Copies) :
    Tabbed.Plain (shownIn sheet range) := by
  -- an empty cell shows nothing, and so nothing that a field must not hold
  have hfields : ∀ row ∈ shownIn sheet range, ∀ field ∈ row,
      '\t' ∉ field ∧ '\n' ∉ field ∧ '\r' ∉ field := by
    intro row hrow field hfield
    obtain ⟨a, ha, rfl⟩ := exists_of_mem_shownIn hrow hfield
    cases hvalue : sheet.value a with
    | none => simp [CellValue.displayCell]
    | some v =>
      have hv := hcells a ha v hvalue
      exact ⟨hv.no_tab, hv.no_feed, hv.no_return⟩
  refine ⟨fun hnil => ?_, fun row hrow hnil => ?_, fun row hrow field hfield => ?_,
    fun row hrow field hfield => ?_, fun row hrow field hfield hreturn => ?_⟩
  · have hlength := length_shownIn sheet range
    have := range.rows.length_pos
    rw [hnil, List.length_nil] at hlength
    omega
  · have hlength := length_of_mem_shownIn hrow
    have := range.columns.length_pos
    rw [hnil, List.length_nil] at hlength
    omega
  · exact (hfields row hrow field hfield).1
  · exact (hfields row hrow field hfield).2.1
  · exact (hfields row hrow field (List.mem_of_getLast? hfield)).2.2
      (List.mem_of_getLast? hreturn)

variable {file : OpenFile}

/-- The number of rows of a range that come back from the clipboard. All of them do, unless the
range is a single column whose last cell is empty. Then the last row does not, nor does the one in
front of it when that is an empty cell and the only one. -/
def copiedRows (file : OpenFile) (range : CellRange) : Nat :=
  if range.columns.length = 1 ∧ file.book.cell? file.active range.stop = none then
    if range.rows.length = 2 ∧ file.book.cell? file.active range.start = none then 0
    else range.rows.length - 1
  else range.rows.length

section Blank

variable (hcells : ∀ a ∈ range, ∀ v ∈ sheet.value a, v.Copies)

include hcells

/-- A row shows nothing at all only if it is one empty cell. -/
theorem row_shownIn_eq_blank_iff {i : Index} (hi : i ∈ range.rows) :
    (range.columns.lines.map fun j => (CellValue.displayCell (sheet.value ⟨i, j⟩)).toList) = [[]] ↔
      range.columns.length = 1 ∧ sheet.value ⟨i, range.columns.stop⟩ = none := by
  have hstop : range.columns.stop ∈ range.columns :=
    Span.mem_of_mem_lines (List.mem_of_getLast? range.columns.getLast?_lines)
  rw [← CellValue.Copies.display_eq_nil_iff (hcells ⟨i, range.columns.stop⟩ ⟨hi, hstop⟩),
    ← range.columns.start_plus_last, Span.lines, List.map_map, map_range_eq_singleton_iff]
  refine and_congr_right fun hone => ?_
  rw [hone]
  rfl

/-- The last row is shown as one empty field if and only if the range is a single column and its
last cell is empty. -/
theorem getLast?_shownIn_eq_blank_iff :
    (shownIn sheet range).getLast? = some [[]] ↔
      range.columns.length = 1 ∧ sheet.value range.stop = none := by
  have hstop : range.rows.stop ∈ range.rows :=
    Span.mem_of_mem_lines (List.mem_of_getLast? range.rows.getLast?_lines)
  rw [shownIn, List.getLast?_map, Span.getLast?_lines, Option.map_some, Option.some.injEq]
  exact row_shownIn_eq_blank_iff hcells hstop

/-- The rows of a single column but the last one are one empty field if and only if there are two
rows and the first cell is empty. -/
theorem dropLast_shownIn_eq_blank_iff (hone : range.columns.length = 1) :
    (shownIn sheet range).dropLast = [[[]]] ↔
      range.rows.length = 2 ∧ sheet.value range.start = none := by
  -- the only column is the first one, so what is left of two rows is the first cell
  have hcolumn : range.columns.stop = range.columns.start := by
    rw [← range.columns.start_plus_last, hone]
    exact Index.plus_zero _
  have hrow := row_shownIn_eq_blank_iff hcells (i := range.rows.start)
    (Span.mem_iff.2 ⟨Nat.le_refl _, range.rows.start_le_stop⟩)
  rw [hcolumn] at hrow
  rw [shownIn, ← List.map_dropLast, Span.dropLast_lines, List.map_map, map_range_eq_singleton_iff,
    Function.comp_apply, Index.plus_zero]
  have := range.rows.length_pos
  exact and_congr (by omega) (hrow.trans (and_iff_right hone))

/-- As many rows are read back from the text of a range as `copiedRows` says. -/
theorem kept_shownIn (hsheet : file.book.sheet? file.active = some sheet) :
    Tabbed.kept (shownIn sheet range) = file.copiedRows range := by
  rw [Tabbed.kept, copiedRows, Workbook.cell?_eq_value hsheet, Workbook.cell?_eq_value hsheet,
    length_shownIn]
  by_cases hlast : range.columns.length = 1 ∧ sheet.value range.stop = none
  · rw [if_pos hlast, if_pos ((getLast?_shownIn_eq_blank_iff hcells).2 hlast)]
    exact ite_congr (propext (dropLast_shownIn_eq_blank_iff hcells hlast.1)) (fun _ => rfl)
      fun _ => rfl
  · rw [if_neg hlast, if_neg (mt (getLast?_shownIn_eq_blank_iff hcells).1 hlast)]

end Blank

/-- No more rows come back from the clipboard than the range has. -/
theorem copiedRows_le (file : OpenFile) (range : CellRange) :
    file.copiedRows range ≤ range.rows.length := by
  rw [copiedRows]
  split
  · split <;> omega
  · exact Nat.le_refl _

/-- The first rows of a range are found again from a cell on, and no cell but those that they were
pasted into is changed. -/
structure Reproduces (file after : OpenFile) (range : CellRange) (d : Address) (rows : Nat) :
    Prop where
  /-- The same sheet is shown. -/
  active : after.active = file.active
  /-- The cells of the rows are the same in both places. -/
  reproduced : ∀ r < rows, ∀ c < range.columns.length,
    CellValue.sameCell (after.book.cell? after.active (d.offset r c))
      (after.book.cell? after.active (range.start.offset r c)) = true
  /-- The other cells of all sheets are as they were. -/
  unchanged : ∀ name a,
    (name = file.active → ∀ r < rows, ∀ c < range.columns.length, d.offset r c ≠ a) →
      after.book.cell? name a = file.book.cell? name a

/-- Writing what is shown in the first rows of a range from a cell on reproduces them. -/
theorem reproduces_of_receives {after : OpenFile} {d : Address} {rows : Nat}
    (hsheet : file.book.sheet? file.active = some sheet)
    (hcells : ∀ a ∈ range, ∀ v ∈ sheet.value a, v.Copies)
    (hbounded : range.start.Fits range.rows.length range.columns.length)
    (hfits : d.Fits range.rows.length range.columns.length)
    (hapart : ∀ r < range.rows.length, ∀ c < range.columns.length, d.offset r c ∉ range)
    (hrows : rows ≤ range.rows.length)
    (hafter : file.Receives d ((shownIn sheet range).take rows) after) :
    file.Reproduces after range d rows := by
  -- a cell that no field is written to is as it was
  have hkept : ∀ name a,
      (name = file.active → ∀ r < rows, ∀ c < range.columns.length, d.offset r c ≠ a) →
        after.book.cell? name a = file.book.cell? name a := by
    intro name a hother
    refine hafter.cell?_of_forall_ne fun hname r c hfield => ?_
    obtain ⟨hr, hc⟩ := lt_of_field?_take_shownIn hfield
    exact hother hname r hr c hc
  refine ⟨hafter.active, fun r hr c hc => ?_, hkept⟩
  have hr' := Nat.lt_of_lt_of_le hr hrows
  have hfield : Tabbed.field? ((shownIn sheet range).take rows) r c =
      some (CellValue.displayCell (sheet.value (range.start.offset r c))).toList := by
    rw [Tabbed.field?_take hr, field?_shownIn hbounded hr' hc]
  have hmem : range.start.offset r c ∈ range :=
    (CellRange.mem_iff_exists_offset hbounded).2 ⟨r, hr', c, hc, rfl⟩
  have hsource : after.book.cell? after.active (range.start.offset r c) =
      sheet.value (range.start.offset r c) := by
    rw [hafter.active, ← Workbook.cell?_eq_value hsheet]
    -- the block is apart from the range
    refine hkept _ _ fun _ r' hr'' c' hc' hcell => ?_
    exact hapart r' (Nat.lt_of_lt_of_le hr'' hrows) c' hc' (hcell ▸ hmem)
  have htarget : after.book.cell? after.active (d.offset r c) =
      CellValue.ofInput (CellValue.displayCell (sheet.value (range.start.offset r c))).toList := by
    rw [hafter.active]
    exact hafter.cell?_offset (hfits.mono hrows)
      (fun _ _ hfield => lt_of_field?_take_shownIn hfield) hfield
  rw [hsource, htarget]
  exact CellValue.Copies.sameCell_display (hcells _ hmem)

end OpenFile

namespace Editor

open OpenFile

variable {editor : Editor} {file : OpenFile} {selection : Selection} {d : Address}

/-- The selected cells hold values that can be copied, and there is room to paste them from a cell
on, apart from where they are. -/
structure CanCopyTo (editor : Editor) (file : OpenFile) (selection : Selection) (d : Address) :
    Prop where
  /-- The file is open. -/
  opened : editor.file = some file
  /-- No text is being typed. -/
  idle : file.edit = none
  /-- The clipboard can be used. -/
  available : editor.clipboard.available = true
  /-- The cells are selected. -/
  selected : file.selection = some selection
  /-- The selection has a bound. -/
  bounded : selection.isUnbounded = false
  /-- Every value comes back from what is shown of it. -/
  copies : ∀ a ∈ selection.range, ∀ v ∈ file.book.cell? file.active a, v.Copies
  /-- The block fits in front of the last lines. -/
  fits : d.Fits selection.range.rows.length selection.range.columns.length
  /-- The block is apart from the selected cells. -/
  apart : ∀ r < selection.range.rows.length, ∀ c < selection.range.columns.length,
    d.offset r c ∉ selection.range

/-- Whether the values of the selected cells can be copied is seen cell by cell. -/
theorem copies_of_offsets (hbounded : selection.isUnbounded = false)
    (h : ∀ r < selection.range.rows.length, ∀ c < selection.range.columns.length,
      ∀ v ∈ file.book.cell? file.active (selection.range.start.offset r c), v.Copies) :
    ∀ a ∈ selection.range, ∀ v ∈ file.book.cell? file.active a, v.Copies := by
  intro a ha
  obtain ⟨r, hr, c, hc, rfl⟩ :=
    (CellRange.mem_iff_exists_offset (Selection.fits_of_bounded hbounded)).1 ha
  exact h r hr c hc

/-- The operations that copy the selected cells and select a cell. -/
def copyThenSelect (d : Address) : List Operation :=
  [.command .copy, .command (.pointerDown d false)]

/-- After copying, the file is as it was with another cell selected, and what is shown in the cells
that were copied is on the clipboard. -/
theorem after_copyThenSelect (h : editor.CanCopyTo file selection d) {sheet : Worksheet}
    (hsheet : file.sheet = .ok sheet) :
    (editor.perform (.command .copy)).1 = .ok (.flag true) ∧
      (editor.after (copyThenSelect d)).file =
        some { file with selection := some (.cell d), dragging := true } ∧
      (editor.after (copyThenSelect d)).clipboard.read? =
        some (String.ofList (Tabbed.write (shownIn sheet selection.range))) := by
  -- a selection with a bound is copied as it is, however much of the sheet is used
  have hclamped : selection.clamped sheet.used = some selection.range := by
    rw [Selection.clamped, h.bounded]
    rfl
  have htext : file.copyText =
      .ok (some (String.ofList (Tabbed.write (shownIn sheet selection.range)))) := by
    rw [copyText, OpenFile.selected, hsheet, h.selected]
    simp only [Except.ok_bind, Option.bind_some, hclamped, Option.map_some]
  have hcopy : editor.perform (.command .copy) = (.ok (.flag true), { editor with
      clipboard := { editor.clipboard with
        text := some (String.ofList (Tabbed.write (shownIn sheet selection.range))) } }) := by
    simp only [perform, performCommand, copy, h.opened, htext, Clipboard.write?, h.available,
      if_pos]
  have hdown : file.pointerDown d false =
      .ok { file with selection := some (.cell d), dragging := true } := by
    have hpressed : pressed file.selection d false = .cell d := by cases file.selection <;> rfl
    have hother : file.editsOtherThan d = false := by rw [editsOtherThan, h.idle]
    rw [OpenFile.pointerDown, hother, ← hpressed]
    rfl
  rw [copyThenSelect, after_cons, hcopy, after_cons, after_nil]
  refine ⟨rfl, ?_, ?_⟩
  · simp only [perform, performCommand, changeFile, withFile, h.opened, hdown]
    rfl
  · simp only [perform, performCommand, changeFile, withFile, h.opened, hdown]
    exact if_pos h.available

/-- The rows of a block of cells that come back from the clipboard are reproduced where they are
pasted, and no other cell is changed. -/
theorem copy_paste_reproduces_block (reached : Reachable editor)
    (h : editor.CanCopyTo file selection d) :
    (editor.perform (.command .copy)).1 = .ok (.flag true) ∧
      ∃ pasted after,
        (editor.after (copyThenSelect d)).perform (.command .paste) =
          (.ok (.pasted pasted), { editor.after (copyThenSelect d) with file := some after }) ∧
        file.Reproduces after selection.range d (file.copiedRows selection.range) := by
  have hsound := reached.sound h.opened
  obtain ⟨sheet, hsheet, hok⟩ := exists_sheet hsound
  have hcells : ∀ a ∈ selection.range, ∀ v ∈ sheet.value a, v.Copies := by
    intro a ha v hv
    refine h.copies a ha v ?_
    rwa [Workbook.cell?_eq_value hsheet]
  obtain ⟨hcopy, hfile, htext⟩ := after_copyThenSelect h hok
  obtain ⟨pasted, after, hpaste, hafter⟩ := perform_paste hfile hsound h.idle rfl htext
  -- the rows that are pasted are the first ones of those that were copied
  have hread : Tabbed.read (Tabbed.write (shownIn sheet selection.range)) =
      (shownIn sheet selection.range).take (file.copiedRows selection.range) := by
    rw [Tabbed.read_write_take (plain_shownIn hcells), kept_shownIn hcells hsheet]
  rw [String.toList_ofList, hread, Selection.start_range_cell] at hafter
  refine ⟨hcopy, pasted, after, hpaste, ?_⟩
  exact reproduces_of_receives hsheet hcells (Selection.fits_of_bounded h.bounded) h.fits h.apart
    (copiedRows_le file _) ⟨hafter.active, hafter.cells⟩

/-- A text is written into the first cell, and the first two cells of the first row are selected. -/
def selectingRow : List Operation :=
  [.write ⟨.first, .first⟩ (some (.text "x")), .command (.pointerDown ⟨.first, .first⟩ false),
    .command (.pointerDown ⟨.first, Index.first.next⟩ true)]

/-- A row of a text and an empty cell is reproduced below. -/
theorem copy_paste_reproduces_row :
    ∃ file pasted after, (newFile.after selectingRow).file = some file ∧
      ((newFile.after selectingRow).perform (.command .copy)).1 = .ok (.flag true) ∧
      ((newFile.after selectingRow).after (copyThenSelect ⟨Index.first.next, .first⟩)).perform
          (.command .paste) =
        (.ok (.pasted pasted),
          { (newFile.after selectingRow).after (copyThenSelect ⟨Index.first.next, .first⟩) with
            file := some after }) ∧
      file.Reproduces after (.spanning ⟨.first, .first⟩ ⟨.first, Index.first.next⟩)
        ⟨Index.first.next, .first⟩ 1 := by
  have hopen : (newFile.after selectingRow).file.isSome = true := by decide +kernel
  have hrows : ((newFile.after selectingRow).file.get hopen).copiedRows
      (.spanning ⟨.first, .first⟩ ⟨.first, Index.first.next⟩) = 1 := by decide +kernel +revert
  have h : (newFile.after selectingRow).CanCopyTo ((newFile.after selectingRow).file.get hopen)
      ⟨⟨.first, .first⟩, ⟨.first, Index.first.next⟩⟩ ⟨Index.first.next, .first⟩ := by
    have hbounded :
        (⟨⟨.first, .first⟩, ⟨.first, Index.first.next⟩⟩ : Selection).isUnbounded = false := by
      decide
    exact ⟨(Option.some_get hopen).symm, by decide +kernel +revert, by decide +kernel,
      by decide +kernel +revert, hbounded, copies_of_offsets hbounded (by decide +kernel +revert),
      ⟨by decide, by decide⟩, by decide +kernel⟩
  obtain ⟨hcopy, pasted, after, hpaste, hreproduces⟩ :=
    copy_paste_reproduces_block (newFile_reachable.of_after selectingRow) h
  exact ⟨_, pasted, after, h.opened, hcopy, hpaste, hrows ▸ hreproduces⟩

/-- A text is written next to the first cell, and the first cell is selected. -/
def selectingBlank : List Operation :=
  [.write ⟨.first, Index.first.next⟩ (some (.text "x")),
    .command (.pointerDown ⟨.first, .first⟩ false)]

/-- Not all rows of a block come back: an empty cell alone is not reproduced over a text. -/
theorem copy_paste_loses_blank_cell :
    ¬ ∀ (editor : Editor) (file : OpenFile) (selection : Selection) (d : Address),
      Reachable editor → editor.CanCopyTo file selection d →
        ∃ after, ((editor.after (copyThenSelect d)).perform (.command .paste)).2.file = some after ∧
          file.Reproduces after selection.range d selection.range.rows.length := by
  intro hall
  have hopen : (newFile.after selectingBlank).file.isSome = true := by decide +kernel
  have h : (newFile.after selectingBlank).CanCopyTo
      ((newFile.after selectingBlank).file.get hopen) (.cell ⟨.first, .first⟩)
      ⟨.first, Index.first.next⟩ := by
    have hbounded : (Selection.cell ⟨.first, .first⟩).isUnbounded = false := by decide
    exact ⟨(Option.some_get hopen).symm, by decide +kernel +revert, by decide +kernel,
      by decide +kernel +revert, hbounded, copies_of_offsets hbounded (by decide +kernel +revert),
      ⟨by decide, by decide⟩, by decide +kernel⟩
  obtain ⟨after, hafter, hreproduces⟩ :=
    hall _ _ _ _ (newFile_reachable.of_after selectingBlank) h
  have hcells := hreproduces.reproduced 0 (by decide) 0 (by decide)
  -- the text is still there, and the first cell is still empty
  have hdiffer : (((newFile.after selectingBlank).after
      (copyThenSelect ⟨.first, Index.first.next⟩)).perform (.command .paste)).2.file.map
        (fun after => CellValue.sameCell
          (after.book.cell? after.active ((⟨.first, Index.first.next⟩ : Address).offset 0 0))
          (after.book.cell? after.active ((⟨.first, .first⟩ : Address).offset 0 0))) =
      some false := by decide +kernel
  rw [hafter, Option.map_some, Option.some.injEq] at hdiffer
  exact Bool.false_ne_true (hdiffer.symm.trans hcells)

end Editor

end EnsembleDesk

import EnsembleDesk.Proofs.Session.Extent
import EnsembleDesk.Proofs.Session.Pasting
import EnsembleDesk.Proofs.Session.Typing
import EnsembleDesk.Proofs.Text.Tabbed
/-!
# The block that is pasted

Pasted rows of fields take the rectangle of so many rows and as many columns as the longest row has
fields (`CellRange.IsBlock`). What is written lies within it, so the writes on their way there do
not matter for the used range and the extent: once the rectangle has come into both, they are what
they would be without the writes (`OpenFile.WritesWithin`). A row that is shorter than the longest
leaves the rest of its cells alone, and a field that means nothing clears its cell.

## Main results

* `Editor.paste_writes_block`: when the typing of a text has ended, pasting changes the cells that
  there are fields for and no other, brings the rectangle of the rows into the used range and the
  extent, and selects it.
-/

namespace EnsembleDesk

/-! ### The size of rows of fields -/

namespace Tabbed

variable {rows : List (List (List Char))} {height longest : Nat}

/-- There are so many rows, and the longest has so many fields. -/
structure HasSize (rows : List (List (List Char))) (height longest : Nat) : Prop where
  /-- The number of rows. -/
  length_eq : rows.length = height
  /-- No row has more fields. -/
  length_le : ∀ row ∈ rows, row.length ≤ longest
  /-- A row has as many. -/
  exists_longest : ∃ row ∈ rows, row.length = longest

/-- Rows are at most as wide as a number if and only if each of them has at most as many fields. -/
theorem width_le_iff {n : Nat} : width rows ≤ n ↔ ∀ row ∈ rows, row.length ≤ n := by
  have hfold : ∀ start, rows.foldl (fun width row => max width row.length) start ≤ n ↔
      start ≤ n ∧ ∀ row ∈ rows, row.length ≤ n := by
    induction rows with
    | nil => simp
    | cons row rows ih =>
      intro start
      rw [List.foldl_cons, ih, Nat.max_le, List.forall_mem_cons, and_assoc]
  exact (hfold 0).trans (and_iff_right (Nat.zero_le n))

namespace HasSize

/-- There is a row, since one of them is the longest. -/
theorem height_pos (h : HasSize rows height longest) : 0 < height := by
  obtain ⟨row, hrow, -⟩ := h.exists_longest
  exact h.length_eq ▸ List.length_pos_of_mem hrow

/-- The width of rows is the number of fields of the longest. -/
theorem width_eq (h : HasSize rows height longest) : width rows = longest := by
  obtain ⟨row, hrow, hlength⟩ := h.exists_longest
  refine Nat.le_antisymm (width_le_iff.2 h.length_le) ?_
  rw [← hlength]
  exact width_le_iff.1 (Nat.le_refl _) row hrow

/-- Fields are in front of the end of the rows and of the longest row. -/
theorem lt_of_field? (h : HasSize rows height longest) {r c : Nat}
    (hfield : (field? rows r c).isSome) : r < height ∧ c < longest := by
  obtain ⟨field, hfield⟩ := Option.isSome_iff_exists.1 hfield
  obtain ⟨row, hrow, hfield⟩ := field?_eq_some_iff.1 hfield
  obtain ⟨hr, -⟩ := List.getElem?_eq_some_iff.1 hrow
  obtain ⟨hc, -⟩ := List.getElem?_eq_some_iff.1 hfield
  exact ⟨h.length_eq ▸ hr, Nat.lt_of_lt_of_le hc (h.length_le row (List.mem_of_getElem? hrow))⟩

/-- Rows that were read have fields. -/
theorem longest_pos {text : List Char} (h : HasSize (read text) height longest) : 0 < longest := by
  obtain ⟨row, hrow, hlength⟩ := h.exists_longest
  exact hlength ▸ List.length_pos_iff.2 (ne_nil_of_mem_read hrow)

end HasSize

end Tabbed

/-! ### Writing within a block -/

namespace OpenFile

variable {file after : OpenFile} {block : CellRange}

/-- An open file after writes within a rectangle: no other sheet is changed, and once the rectangle
has come into the used range and the extent, both are what they would be without the writes. -/
structure WritesWithin (file : OpenFile) (block : CellRange) (after : OpenFile) : Prop where
  /-- The same sheet is shown. -/
  active : after.active = file.active
  /-- The used range of the sheet that is shown. -/
  used : (after.book.sheet? file.active).map (fun sheet => (sheet.cover block).used) =
    (file.book.sheet? file.active).map fun sheet => (sheet.cover block).used
  /-- The other sheets are as they were. -/
  others : ∀ name ≠ file.active, after.book.sheet? name = file.book.sheet? name
  /-- The extent. -/
  extent : after.extent.ensureCell block.stop = file.extent.ensureCell block.stop

namespace WritesWithin

theorem refl (file : OpenFile) (block : CellRange) : file.WritesWithin block file :=
  ⟨rfl, rfl, fun _ _ => rfl, rfl⟩

theorem trans {first second third : OpenFile} (h : first.WritesWithin block second)
    (h' : second.WritesWithin block third) : first.WritesWithin block third := by
  obtain ⟨hactive, hused, hothers, hextent⟩ := h'
  rw [h.active] at hactive hused hothers
  exact ⟨hactive, hused.trans h.used, fun name hne => (hothers name hne).trans (h.others name hne),
    hextent.trans h.extent⟩

/-- A write into a cell of the rectangle is a write within it. -/
theorem of_write {a : Address} (ha : a ∈ block) {value : Option CellValue}
    (h : file.write a value = .ok after) : file.WritesWithin block after := by
  obtain ⟨sheet, -, h⟩ := Except.bind_eq_ok_iff.1 h
  cases h
  have hsheet (name : String) := Workbook.sheet?_update (fun sheet => sheet.name_put a value)
    file.book file.active name
  refine ⟨rfl, ?_, fun name hne => (hsheet name).trans (if_neg hne),
    file.extent.ensureCell_ensureCell ha⟩
  have hshown := (hsheet file.active).trans (if_pos rfl)
  refine (congrArg _ hshown).trans ?_
  rw [Option.map_map]
  exact congrArg (Option.map · _) (funext fun sheet => sheet.used_cover_put ha value)

/-- Writes into cells of the rectangle are writes within it. -/
theorem of_writeAll {cells : List (Address × Option CellValue)}
    (hcells : ∀ cell ∈ cells, cell.1 ∈ block) (h : file.writeAll cells = .ok after) :
    file.WritesWithin block after :=
  Except.foldlM_keeps (P := file.WritesWithin block)
    (fun _ cell hcell hwrites _ hnext => hwrites.trans (.of_write (hcells cell hcell) hnext))
    (.refl file block) h

end WritesWithin

/-! ### Pasting -/

variable {anchor : Address} {rows : List (List (List Char))}

/-- An open file after rows of fields were pasted into a rectangle from its first cell on. -/
structure Pastes (file : OpenFile) (anchor : Address) (rows : List (List (List Char)))
    (block : CellRange) (after : OpenFile) : Prop where
  /-- The same sheet is shown. -/
  active : after.active = file.active
  /-- The cell of each field holds what the field means, and is empty if it means nothing. -/
  fields : ∀ r c field, Tabbed.field? rows r c = some field →
    ∃ a ∈ block, a.LiesAt anchor r c ∧ after.book.cell? file.active a = CellValue.ofInput field
  /-- A cell that no field is for is as it was, on every sheet. -/
  unchanged : ∀ name a,
    (name = file.active → ∀ r c, a.LiesAt anchor r c → Tabbed.field? rows r c = none) →
      after.book.cell? name a = file.book.cell? name a
  /-- The rectangle has come into the used range, and nothing else has. -/
  used : ∃ sheet later, file.book.sheet? file.active = some sheet ∧
    after.book.sheet? file.active = some later ∧
    later.used = some (sheet.used.elim block (·.union block))
  /-- The other sheets are as they were. -/
  others : ∀ name ≠ file.active, after.book.sheet? name = file.book.sheet? name
  /-- The last cell of the rectangle has come into the extent, and nothing behind it has. -/
  extent : after.extent = file.extent.ensureCell block.stop
  /-- The whole rectangle is within the extent. -/
  shown : ∀ a ∈ block, ∀ axis, a.along axis < after.extent.along axis
  /-- The rectangle is selected from its first to its last cell. -/
  selection : after.selection = some ⟨block.start, block.stop⟩

/-- The last cell of the rows is reached exactly. -/
theorem liesAt_stop {height longest : Nat} (hsize : Tabbed.HasSize rows height longest)
    (hlongest : 0 < longest) (hfits : anchor.Fits height longest) :
    (anchor.offset ((rows.length : Int) - 1) ((max (Tabbed.width rows) 1 : Nat) - 1)).LiesAt anchor
      (height - 1) (longest - 1) := by
  have hheight := hsize.height_pos
  have hrow : (rows.length : Int) - 1 = (height - 1 : Nat) := by
    rw [hsize.length_eq]
    omega
  have hcolumn : ((max (Tabbed.width rows) 1 : Nat) : Int) - 1 = (longest - 1 : Nat) := by
    rw [hsize.width_eq]
    omega
  rw [hrow, hcolumn]
  exact hfits.liesAt_offset (Nat.sub_one_lt_of_lt hheight) (Nat.sub_one_lt_of_lt hlongest)

/-- When a rectangle comes into the used range after writes within it, the used range is the old one
and the rectangle, and no other sheet is changed. -/
theorem WritesWithin.sheet?_cover {written : OpenFile} (h : file.WritesWithin block written)
    {sheet : Worksheet} (hsheet : file.book.sheet? file.active = some sheet)
    (hbook : after.book = written.book.update written.active (·.cover block)) :
    (∃ later, after.book.sheet? file.active = some later ∧
        later.used = some (sheet.used.elim block (·.union block))) ∧
      ∀ name ≠ file.active, after.book.sheet? name = file.book.sheet? name := by
  have hcovered (name : String) :=
    Workbook.sheet?_update (fun sheet => sheet.name_cover block) written.book written.active name
  rw [← hbook, h.active] at hcovered
  have hused := h.used
  rw [hsheet, Option.map_some, Option.map_eq_some_iff] at hused
  obtain ⟨shown, hshown, hused⟩ := hused
  refine ⟨⟨shown.cover block, ?_, hused.trans (sheet.used_cover block)⟩, fun name hne => ?_⟩
  · rw [hcovered, if_pos rfl, hshown, Option.map_some]
  · rw [hcovered, if_neg hne, h.others name hne]

/-- Pasting writes the fields of the rows and nothing else. -/
theorem pastes_of_pasteRows {committed : OpenFile} (h : committed.content.Sound)
    (hcommit : file.commit = .ok committed) {selection : Selection} {height longest : Nat}
    (hsize : Tabbed.HasSize rows height longest) (hlongest : 0 < longest)
    (hfits : selection.range.start.Fits height longest)
    (hpaste : file.pasteRows selection rows = .ok (block, after)) :
    block.IsBlock selection.range.start height longest ∧
      committed.Pastes selection.range.start rows block after := by
  have hreceives := receives_of_pasteRows h hcommit hpaste
  obtain ⟨written, stop, hwritten, rfl, hspanning, -, hbook, hextent, hselection⟩ :=
    exists_written_of_pasteRows hcommit hpaste
  obtain ⟨hblock, hstop⟩ := CellRange.isBlock_spanning (liesAt_stop hsize hlongest hfits)
    hsize.height_pos hlongest
  rw [← hspanning] at hblock hstop
  -- the cells that are written are in the block
  have hplace : ∀ r c, (Tabbed.field? rows r c).isSome →
      (selection.range.start.offset r c).LiesAt selection.range.start r c ∧
        selection.range.start.offset r c ∈ block := by
    intro r c hfield
    obtain ⟨hr, hc⟩ := hsize.lt_of_field? hfield
    have hlies := hfits.liesAt_offset hr hc
    exact ⟨hlies, hblock.mem_iff.2 ⟨r, hr, c, hc, hlies⟩⟩
  have hwrites : committed.WritesWithin block written := by
    refine .of_writeAll (fun cell hcell => ?_) hwritten
    obtain ⟨a, value⟩ := cell
    obtain ⟨r, c, field, hfield, rfl, -⟩ := mem_fieldWrites.1 hcell
    exact (hplace r c (hfield ▸ rfl)).2
  obtain ⟨sheet, hsheet, -⟩ := exists_sheet h
  obtain ⟨⟨later, hlater, hused⟩, hothers⟩ := hwrites.sheet?_cover hsheet hbook
  rw [← hstop] at hextent hselection
  refine ⟨hblock, ?_⟩
  constructor
  case active => exact hreceives.active
  case fields =>
    intro r c field hfield
    obtain ⟨hlies, hmem⟩ := hplace r c (hfield ▸ rfl)
    exact ⟨_, hmem, hlies, hreceives.cell?_offset hfits (fun _ _ => hsize.lt_of_field?) hfield⟩
  case unchanged =>
    intro name a hnone
    refine hreceives.cell?_of_forall_ne fun hname r c hfield hcell => ?_
    rw [hnone hname r c (hcell ▸ (hplace r c hfield).1)] at hfield
    cases hfield
  case used => exact ⟨sheet, later, hsheet, hlater, hused⟩
  case others => exact hothers
  case extent => exact hextent.trans hwrites.extent
  case shown =>
    intro a ha axis
    rw [hextent]
    refine written.extent.along_lt_ensureCell ?_ (hblock.stop_lt hfits axis)
    cases axis with
    | row => exact ha.1.2
    | column => exact ha.2.2
  case selection => rw [hselection, hblock.start]

end OpenFile

namespace Editor

open OpenFile

variable {editor : Editor} {file : OpenFile} {selection : Selection} {text : String}

/-- Pasting takes the rectangle of the rows of the text on the clipboard from the first selected
cell on, if there is room for it in front of the last lines. First the typing of a text ends. Then
the cells that there are fields for, and no others, get what the fields mean, the rectangle comes
into the used range and the extent, and it is selected. -/
theorem paste_writes_block (reached : Reachable editor) (hfile : editor.file = some file)
    (hselection : file.selection = some selection) (htext : editor.clipboard.read? = some text)
    {height longest : Nat} (hsize : Tabbed.HasSize (Tabbed.read text.toList) height longest)
    (hfits : selection.range.start.Fits height longest) :
    ∃ committed block after,
      editor.perform (.command .commitEdit) =
        (.ok (.flag file.edit.isSome), { editor with file := some committed }) ∧
      editor.perform (.command .paste) =
        (.ok (.pasted (some block)), { editor with file := some after }) ∧
      block.IsBlock selection.range.start height longest ∧
      committed.Pastes selection.range.start (Tabbed.read text.toList) block after := by
  have hsound := reached.sound hfile
  obtain ⟨committed, hcommit, hcontent⟩ := commit_content hsound
  obtain ⟨⟨block, after⟩, hok, -⟩ := pasteRows_content hsound selection (Tabbed.read text.toList)
  -- a text without rows would only be told to the user
  have hne : Tabbed.read text.toList ≠ [] := by
    obtain ⟨row, hrow, -⟩ := hsize.exists_longest
    exact List.ne_nil_of_mem hrow
  refine ⟨committed, block, after, ?_, ?_, pastes_of_pasteRows (hcontent ▸ hsound.applyAll _)
    hcommit hsize hsize.longest_pos hfits hok⟩
  · exact withFile_ok hfile (map_commitEdit hcommit)
  · obtain ⟨row, rows, hrows⟩ := List.exists_cons_of_ne_nil hne
    rw [hrows] at hok
    simp only [perform, performCommand, paste, hfile, hselection, htext, hrows, withFile, hok]
    rfl

/-- A text is being typed into the first of three rows that are pasted, of which the second is
shorter. -/
def raggedPaste : Editor :=
  { newFile.after [.write ⟨2, 3⟩ (some (.text "a")), .write ⟨3, 3⟩ (some (.text "b")),
      .command (.doubleClick ⟨2, 2⟩), .command (.setEditText "c")] with
    clipboard := { text := some "1\t\n\nx\tTRUE\n" } }

/-- The cell next to the first field is cleared, and the one next to the shorter row is kept. -/
theorem paste_writes_raggedBlock :
    ∃ file committed block after, raggedPaste.file = some file ∧
      raggedPaste.perform (.command .commitEdit) =
        (.ok (.flag true), { raggedPaste with file := some committed }) ∧
      raggedPaste.perform (.command .paste) =
        (.ok (.pasted (some block)), { raggedPaste with file := some after }) ∧
      block.IsBlock ⟨2, 2⟩ 3 2 ∧
      committed.Pastes
        ⟨2, 2⟩ [["1".toList, []], [[]], ["x".toList, "TRUE".toList]] block after := by
  have hopen : raggedPaste.file.isSome = true := by decide +kernel
  have hedit : (raggedPaste.file.get hopen).edit.isSome = true := by decide +kernel +revert
  have hselection : (raggedPaste.file.get hopen).selection = some (.cell ⟨2, 2⟩) := by
    decide +kernel +revert
  have hrows : Tabbed.read "1\t\n\nx\tTRUE\n".toList =
      [["1".toList, []], [[]], ["x".toList, "TRUE".toList]] := by decide
  have hsize : Tabbed.HasSize (Tabbed.read "1\t\n\nx\tTRUE\n".toList) 3 2 :=
    hrows ▸ ⟨by decide, by decide, by decide⟩
  have reached : Reachable raggedPaste := (newFile_reachable.of_after _).provide _ _
  obtain ⟨committed, block, after, hcommit, hpaste, hblock, hpastes⟩ :=
    paste_writes_block reached (Option.some_get hopen).symm hselection rfl hsize
      ⟨by decide, by decide⟩
  rw [hedit] at hcommit
  rw [hrows] at hpastes
  exact ⟨_, committed, block, after, (Option.some_get hopen).symm, hcommit, hpaste, hblock, hpastes⟩

end Editor

end EnsembleDesk

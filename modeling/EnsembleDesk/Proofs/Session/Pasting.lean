import EnsembleDesk.Proofs.Session.Anchor
import EnsembleDesk.Proofs.Session.Blocks
/-!
# Pasting rows of fields

Rows are pasted by writing one cell after the other, so a cell holds afterwards what was written to
it last (`Content.cell?_writeAll`). If the rows fit in front of the last lines (`Address.Fits`),
each field has a cell of its own, and the cells are known exactly (`OpenFile.Receives.cell?_offset`,
`OpenFile.Receives.cell?_of_forall_ne`).

## Main results

* `OpenFile.receives_of_pasteRows`: what is in the cells after rows were pasted;
* `Editor.perform_paste`: what pasting the text on the clipboard does when no text is being typed.
-/

namespace EnsembleDesk

/-! ### Fields -/

namespace Tabbed

variable {rows : List (List (List Char))}

/-- The field of rows in a row and a column. -/
def field? (rows : List (List (List Char))) (r c : Nat) : Option (List Char) :=
  rows[r]?.bind (·[c]?)

/-- A field is found in a row and a column if and only if there is such a row with such a field. -/
theorem field?_eq_some_iff {r c : Nat} {field : List Char} :
    field? rows r c = some field ↔ ∃ row, rows[r]? = some row ∧ row[c]? = some field :=
  Option.bind_eq_some_iff

/-- The first rows have the fields that all rows have there. -/
theorem field?_take {n r : Nat} (hr : r < n) (c : Nat) :
    field? (rows.take n) r c = field? rows r c := by
  rw [field?, field?, List.getElem?_take_of_lt hr]

end Tabbed

/-! ### Writes -/

/-- What is found first under a key is the only thing found under it. -/
theorem lookup_eq_some_of_unique {κ α : Type} [BEq κ] [LawfulBEq κ] {entries : List (κ × α)}
    {key : κ} {value : α} (hmem : (key, value) ∈ entries)
    (hunique : ∀ other, (key, other) ∈ entries → other = value) :
    entries.lookup key = some value := by
  cases hfound : entries.lookup key with
  | none =>
    have := List.lookup_eq_none_iff.1 hfound _ hmem
    simp at this
  | some other =>
    obtain ⟨front, rest, rfl, -⟩ := List.lookup_eq_some_iff.1 hfound
    rw [hunique other (by simp)]

namespace Content

/-- After several writes, a cell of the sheet that is shown holds what was written to it last. -/
theorem cell?_writeAll {content : Content} (h : content.Sound)
    (cells : List (Address × Option CellValue)) (name : String) (a : Address) :
    (content.applyAll (OpenFile.writeChanges cells)).book.cell? name a =
      if name = content.active then
        (cells.reverse.lookup a).getD (content.book.cell? name a)
      else content.book.cell? name a := by
  induction cells generalizing content with
  | nil => simp [OpenFile.writeChanges, applyAll]
  | cons cell cells ih =>
    obtain ⟨b, value⟩ := cell
    have hfirst : (content.apply (.write b value)).book.cell? name a =
        if name = content.active ∧ b = a then value else content.book.cell? name a :=
      Workbook.cell?_update_put h.active b value name a
    have hrest := ih (h.apply (.write b value))
    have hactive : (content.apply (.write b value)).active = content.active := rfl
    rw [hfirst, hactive] at hrest
    refine hrest.trans ?_
    rw [List.reverse_cons, List.lookup_append]
    by_cases hname : name = content.active
    · rw [if_pos hname, if_pos hname]
      cases hfound : cells.reverse.lookup a with
      | some last => rfl
      -- the first write counts if there is no other
      | none =>
        by_cases hb : b = a
        · simp [hname, hb]
        · simp [hname, hb, List.lookup_cons, beq_eq_false_iff_ne.2 (Ne.symm hb)]
    · rw [if_neg hname, if_neg hname, if_neg fun hboth => hname hboth.1]

end Content

namespace OpenFile

variable {anchor : Address} {rows : List (List (List Char))}

/-- A write belongs to a field: it goes to the cell as far from the first one, and writes what the
field reads as. -/
theorem mem_fieldWrites {a : Address} {value : Option CellValue} :
    (a, value) ∈ fieldWrites anchor rows ↔
      ∃ r c field, Tabbed.field? rows r c = some field ∧ anchor.offset r c = a ∧
        CellValue.ofInput field = value := by
  simp only [fieldWrites, List.mem_flatMap, List.mem_map, Prod.exists, Prod.mk.injEq,
    List.mem_zipIdx_iff_getElem?, Tabbed.field?_eq_some_iff]
  constructor
  · rintro ⟨row, r, hrow, field, c, hfield, ha, hvalue⟩
    exact ⟨r, c, field, ⟨row, hrow, hfield⟩, ha, hvalue⟩
  · rintro ⟨r, c, field, ⟨row, hrow, hfield⟩, ha, hvalue⟩
    exact ⟨row, r, hrow, field, c, hfield, ha, hvalue⟩

/-- If the fields fit, each one is written to a cell of its own. -/
theorem lookup_fieldWrites {height width : Nat} (h : anchor.Fits height width)
    (hfields : ∀ r c, (Tabbed.field? rows r c).isSome → r < height ∧ c < width) {r c : Nat}
    {field : List Char} (hfield : Tabbed.field? rows r c = some field) :
    (fieldWrites anchor rows).reverse.lookup (anchor.offset r c) =
      some (CellValue.ofInput field) := by
  refine lookup_eq_some_of_unique
    (List.mem_reverse.2 (mem_fieldWrites.2 ⟨r, c, field, hfield, rfl, rfl⟩)) fun other hother => ?_
  obtain ⟨r', c', field', hfield', hcell, rfl⟩ := mem_fieldWrites.1 (List.mem_reverse.1 hother)
  -- what else is written to the cell comes from the same row and column
  have hlt := hfields r c (hfield ▸ rfl)
  have hlt' := hfields r' c' (hfield' ▸ rfl)
  obtain ⟨rfl, rfl⟩ := h.offset_inj hlt'.1 hlt.1 hlt'.2 hlt.2 hcell
  rw [Option.some.inj (hfield'.symm.trans hfield)]

/-- A cell without a field is not written. -/
theorem lookup_fieldWrites_eq_none {a : Address}
    (hother : ∀ r c, (Tabbed.field? rows r c).isSome → anchor.offset r c ≠ a) :
    (fieldWrites anchor rows).reverse.lookup a = none := by
  refine List.lookup_eq_none_iff.2 fun entry hentry => ?_
  obtain ⟨cell, value⟩ := entry
  obtain ⟨r, c, field, hfield, rfl, -⟩ := mem_fieldWrites.1 (List.mem_reverse.1 hentry)
  have := hother r c (by rw [hfield]; rfl)
  simpa using this.symm

variable {file : OpenFile}

/-- The open file after rows of fields were put into its cells from a cell on: a cell of the sheet
that is shown holds the last field that was put into it, and every other cell is as it was. -/
structure Receives (file : OpenFile) (anchor : Address) (rows : List (List (List Char)))
    (after : OpenFile) : Prop where
  /-- The same sheet is shown. -/
  active : after.active = file.active
  /-- The cells hold what was written last. -/
  cells : ∀ name a, after.book.cell? name a =
    if name = file.active then
      ((fieldWrites anchor rows).reverse.lookup a).getD (file.book.cell? name a)
    else file.book.cell? name a

/-- Without rows, nothing is received. -/
theorem receives_nil (file : OpenFile) (anchor : Address) : file.Receives anchor [] file :=
  ⟨rfl, fun name a => by simp [fieldWrites]⟩

namespace Receives

variable {after : OpenFile}

/-- If the fields fit, each cell that a field is put into holds what the field means. -/
theorem cell?_offset (h : file.Receives anchor rows after) {height width : Nat}
    (hfits : anchor.Fits height width)
    (hfields : ∀ r c, (Tabbed.field? rows r c).isSome → r < height ∧ c < width) {r c : Nat}
    {field : List Char} (hfield : Tabbed.field? rows r c = some field) :
    after.book.cell? file.active (anchor.offset r c) = CellValue.ofInput field := by
  rw [h.cells, if_pos rfl, lookup_fieldWrites hfits hfields hfield, Option.getD_some]

/-- A cell that no field is put into is as it was. -/
theorem cell?_of_forall_ne (h : file.Receives anchor rows after) {name : String} {a : Address}
    (hother : name = file.active →
      ∀ r c, (Tabbed.field? rows r c).isSome → anchor.offset r c ≠ a) :
    after.book.cell? name a = file.book.cell? name a := by
  rw [h.cells]
  split
  · rename_i hname
    rw [lookup_fieldWrites_eq_none (hother hname), Option.getD_none]
  · rfl

end Receives

/-- What pasting does when the typing of a text has ended: it writes the fields, and then the
rectangle comes into the used range, its last cell into the extent, and both corners are
selected. -/
theorem exists_written_of_pasteRows {committed : OpenFile} (hcommit : file.commit = .ok committed)
    {selection : Selection} {block : CellRange} {after : OpenFile}
    (hpaste : file.pasteRows selection rows = .ok (block, after)) :
    ∃ written stop,
      committed.writeAll (fieldWrites selection.range.start rows) = .ok written ∧
      stop = selection.range.start.offset ((rows.length : Int) - 1)
        ((max (Tabbed.width rows) 1 : Nat) - 1) ∧
      block = .spanning selection.range.start stop ∧
      after.active = written.active ∧
      after.book = written.book.update written.active (·.cover block) ∧
      after.extent = written.extent.ensureCell stop ∧
      after.selection = some ⟨selection.range.start, stop⟩ := by
  rw [pasteRows, hcommit, Except.ok_bind] at hpaste
  obtain ⟨written, hwritten, hpaste⟩ := Except.bind_eq_ok_iff.1 hpaste
  cases hpaste
  exact ⟨written, _, hwritten, rfl, rfl, rfl, rfl, rfl, rfl⟩

/-- Pasted rows are received when the typing of a text has ended. -/
theorem receives_of_pasteRows {committed : OpenFile} (h : committed.content.Sound)
    (hcommit : file.commit = .ok committed) {selection : Selection} {range : CellRange}
    {after : OpenFile} (hpaste : file.pasteRows selection rows = .ok (range, after)) :
    committed.Receives selection.range.start rows after := by
  obtain ⟨written, -, hwritten, -, -, hactive, hbook, -⟩ :=
    exists_written_of_pasteRows hcommit hpaste
  obtain ⟨result, hok, hcontent⟩ := writeAll_content h (fieldWrites selection.range.start rows)
  obtain rfl : written = result := Except.ok.inj (hwritten.symm.trans hok)
  refine ⟨hactive.trans (SameFocus.of_writeAll hwritten).active, fun name a => ?_⟩
  have hcells := Content.cell?_writeAll h (fieldWrites selection.range.start rows) name a
  rw [← hcontent] at hcells
  -- the used range is extended last, which changes no cell
  rw [hbook, Workbook.cell?_update_of_cells (fun sheet => Worksheet.name_cover sheet _)
    fun _ => rfl]
  exact hcells

end OpenFile

namespace Editor

open OpenFile

variable {editor : Editor} {file : OpenFile}

/-- Pasting writes the fields of the text on the clipboard from the first selected cell on. -/
theorem perform_paste (hfile : editor.file = some file) (h : file.content.Sound)
    (hedit : file.edit = none) {selection : Selection}
    (hselection : file.selection = some selection) {text : String}
    (htext : editor.clipboard.read? = some text) :
    ∃ range after,
      editor.perform (.command .paste) = (.ok (.pasted range), { editor with file := some after }) ∧
      file.Receives selection.range.start (Tabbed.read text.toList) after := by
  cases hrows : Tabbed.read text.toList with
  -- a text without rows is not pasted
  | nil =>
    refine ⟨none, file, ?_, receives_nil file _⟩
    simp only [perform, performCommand, paste, hfile, hselection, htext, hrows]
    rw [← hfile]
  | cons row rows =>
    have hcommit : file.commit = .ok file := by rw [commit, hedit]
    obtain ⟨⟨range, after⟩, hok, -⟩ := pasteRows_content h selection (row :: rows)
    refine ⟨some range, after, ?_, receives_of_pasteRows h hcommit hok⟩
    simp only [perform, performCommand, paste, hfile, hselection, htext, hrows, withFile, hok]
    rfl

end Editor

end EnsembleDesk

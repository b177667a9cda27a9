import EnsembleDesk.Proofs.Book.Cells
import EnsembleDesk.Proofs.Session.SavedState
/-!
# Taking writes back

`Workbook.takeBack` is the workbook after one recorded write is taken back, `Workbook.rewind` after
several are, the last one first. A write that is taken back right after it was made leaves the
workbook as it was (`Workbook.takeBack_update_put`), and rewinding does not tell workbooks apart
that are alike (`Workbook.Alike.rewind`), so a write that changed nothing need not be taken back.
-/

namespace EnsembleDesk

namespace Workbook

/-- The workbook after a recorded write is taken back. -/
def takeBack (book : Workbook) (edit : CellEdit) : Workbook :=
  book.update edit.sheet (·.put edit.cell edit.old)

/-- The workbook after recorded writes are taken back, in the order of the list. -/
def rewind (book : Workbook) (edits : List CellEdit) : Workbook := edits.foldl takeBack book

/-- The first of several writes is taken back before the others. -/
@[simp]
theorem rewind_cons (book : Workbook) (edit : CellEdit) (edits : List CellEdit) :
    book.rewind (edit :: edits) = (book.takeBack edit).rewind edits := rfl

/-- Writes are taken back one group after the other. -/
theorem rewind_append (book : Workbook) (first second : List CellEdit) :
    book.rewind (first ++ second) = (book.rewind first).rewind second :=
  List.foldl_append

/-- Taking a write back keeps the names of the sheets. -/
theorem names_takeBack (book : Workbook) (edit : CellEdit) :
    (book.takeBack edit).names = book.names :=
  names_update (fun sheet => Worksheet.name_put sheet _ _) _ _

/-- When a write is taken back, its cell gets the value that it had, and no other cell is
changed. -/
theorem cell?_takeBack {book : Workbook} {edit : CellEdit} (h : edit.sheet ∈ book.names)
    (name : String) (a : Address) :
    (book.takeBack edit).cell? name a =
      if name = edit.sheet ∧ edit.cell = a then edit.old else book.cell? name a :=
  cell?_update_put h edit.cell edit.old name a

/-- Taking a write back does not tell workbooks apart that are alike. -/
theorem Alike.takeBack {book other : Workbook} (h : book.Alike other) (edit : CellEdit) :
    (book.takeBack edit).Alike (other.takeBack edit) := by
  refine ⟨by rw [names_takeBack, names_takeBack, h.names], fun name a => ?_⟩
  -- in both workbooks one cell gets the old value, and all others stay alike
  by_cases hmem : edit.sheet ∈ book.names
  · rw [cell?_takeBack hmem, cell?_takeBack (h.names ▸ hmem)]
    split
    · exact .refl _
    · exact h.cells name a
  · -- the write is of a sheet that neither workbook has
    have hkept : ∀ b : Workbook, edit.sheet ∉ b.names → (b.takeBack edit).cell? name a =
        b.cell? name a := by
      intro b hb
      rw [cell?, cell?, Workbook.takeBack,
        sheet?_update (fun sheet => Worksheet.name_put sheet _ _)]
      split
      · rename_i hname
        subst hname
        cases hsheet : b.sheet? edit.sheet with
        | none => rfl
        | some sheet => exact absurd (mem_names_iff.2 ⟨sheet, hsheet⟩) hb
      · rfl
    rw [hkept book hmem, hkept other (h.names ▸ hmem)]
    exact h.cells name a

/-- Workbooks are taken back write by write, up to cells that are alike. -/
theorem rewinds : Rewinds takeBack Alike := ⟨.refl, .trans, .takeBack⟩

/-- Rewinding does not tell workbooks apart that are alike. -/
theorem Alike.rewind {book other : Workbook} (h : book.Alike other) (edits : List CellEdit) :
    (book.rewind edits).Alike (other.rewind edits) :=
  rewinds.foldl h edits

/-- A write that is taken back right after it was made leaves the cells as they were. -/
theorem takeBack_update_put {book : Workbook} {name : String} (hname : name ∈ book.names)
    (a : Address) (v : Option CellValue) :
    ((book.update name (·.put a v)).takeBack ⟨name, a, book.cell? name a, v⟩).Alike book := by
  have hnames := names_update (fun sheet => Worksheet.name_put sheet a v) book name
  refine ⟨by rw [names_takeBack, hnames], fun other b => .inl ?_⟩
  -- every cell is written twice or not at all
  rw [cell?_takeBack (hnames ▸ hname), cell?_update_put hname]
  split
  · rename_i h
    obtain ⟨rfl, rfl⟩ := h
    rfl
  · rfl

/-- A write that does not change its cell gives a workbook that is alike. -/
theorem alike_update_put {book : Workbook} {name : String} (hname : name ∈ book.names)
    {a : Address} {v : Option CellValue}
    (h : CellValue.sameCell (book.cell? name a) v = true) :
    (book.update name (·.put a v)).Alike book := by
  refine ⟨names_update (fun sheet => Worksheet.name_put sheet a v) book name, fun other b => ?_⟩
  rw [cell?_update_put hname]
  split
  · rename_i heq
    -- the cell that is written is the one that was compared
    rw [heq.1, ← heq.2]
    exact .symm (.inr h)
  · exact .refl _

end Workbook

end EnsembleDesk

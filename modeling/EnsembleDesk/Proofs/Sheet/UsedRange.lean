import EnsembleDesk.Proofs.Book.Cells
/-!
# Used ranges

The used range of a sheet is kept apart from its cells, so every operation has to carry both along.
`Worksheet.Covered` says that the used range holds every cell, `Worksheet.UsedWithin` that it is
within the used range of another sheet.

## Main results

* `Span.mem_afterInsertion`, `Span.mem_afterDeletion`: a span moves with its lines;
* `Worksheet.Covered.put`, `Worksheet.Covered.insertLine`, `Worksheet.Covered.deleteLine`: every
  operation keeps the cells covered.
-/

namespace EnsembleDesk

/-! ### Spans -/

namespace Span

variable {span : Span} {i j position : Index}

/-- The lines of a span are those from its first to its last one. -/
theorem mem_iff : i ∈ span ↔ span.start.val ≤ i.val ∧ i.val ≤ span.stop.val := Iff.rfl

/-- A single line is in its own span. -/
theorem mem_single : i ∈ single i := mem_iff.2 ⟨Nat.le_refl _, Nat.le_refl _⟩

/-- A span that is extended to a line has the line. -/
theorem mem_including (span : Span) (i : Index) : i ∈ span.including i := by
  rw [mem_iff, including, Index.val_earlier, Index.val_later]
  omega

/-- A span that is extended loses no line. -/
theorem mem_including_of_mem (h : i ∈ span) (j : Index) : i ∈ span.including j := by
  rw [mem_iff] at h ⊢
  rw [including, Index.val_earlier, Index.val_later]
  omega

/-- The lines of a span that is given by its ends. -/
theorem mem_mk {start stop : Index} {h : start ≤ stop} :
    i ∈ (⟨start, stop, h⟩ : Span) ↔ start.val ≤ i.val ∧ i.val ≤ stop.val := Iff.rfl

/-- A span moves with its lines when a line is inserted. -/
theorem mem_afterInsertion (h : i ∈ span) (position : Index) :
    i.afterInsertion position ∈ span.afterInsertion position := by
  have hi := Index.val_next i
  have hstop := Index.val_next span.stop
  have hbound := span.stop.isLt
  have hmem := mem_iff.1 h
  rw [Index.afterInsertion, afterInsertion]
  -- a line that moves takes the end of the span along
  by_cases hmoved : position.val ≤ i.val
  · rw [if_pos (show position ≤ i from hmoved),
      if_pos (show position ≤ span.stop from Nat.le_trans hmoved hmem.2), mem_mk]
    omega
  · rw [if_neg (show ¬ position ≤ i from hmoved)]
    by_cases hgrown : position.val ≤ span.stop.val
    · rw [if_pos (show position ≤ span.stop from hgrown), mem_mk]
      omega
    · rw [if_neg (show ¬ position ≤ span.stop from hgrown)]
      exact h

/-- A line that comes before the one that is deleted. -/
theorem mem_afterDeletion_of_lt (h : i ∈ span) (hi : i.val < position.val) :
    i ∈ span.afterDeletion position := by
  have hstop := Index.val_previous span.stop
  have hmem := mem_iff.1 h
  -- the line that is deleted is behind `i`, so the span begins where it did
  have hbefore : ¬ position < span.start := show ¬ position.val < span.start.val by omega
  rw [afterDeletion, if_neg hbefore]
  split
  · rename_i hspan
    have hspan : position.val ≤ span.stop.val := hspan.1
    rw [mem_mk]
    omega
  · exact h

/-- A line that comes after the one that is deleted. -/
theorem previous_mem_afterDeletion (h : i ∈ span) (hi : position.val < i.val) :
    i.previous ∈ span.afterDeletion position := by
  have hstart := Index.val_previous span.start
  have hstop := Index.val_previous span.stop
  have hprevious := Index.val_previous i
  have hmem := mem_iff.1 h
  rw [afterDeletion]
  -- in front of the span the whole span moves; within it, its end does
  by_cases hbefore : position.val < span.start.val
  · rw [if_pos (show position < span.start from hbefore), mem_mk]
    omega
  · have hspan : position ≤ span.stop ∧ span.start < span.stop :=
      show position.val ≤ span.stop.val ∧ span.start.val < span.stop.val by omega
    rw [if_neg (show ¬ position < span.start from hbefore), dif_pos hspan, mem_mk]
    omega

/-- A span moves with the lines that are left when a line is deleted. -/
theorem mem_afterDeletion (h : i ∈ span) (hj : i.afterDeletion position = some j) :
    j ∈ span.afterDeletion position := by
  rw [Index.afterDeletion] at hj
  by_cases hbefore : i < position
  · rw [if_pos hbefore] at hj
    obtain rfl := Option.some.inj hj
    exact mem_afterDeletion_of_lt h hbefore
  · rw [if_neg hbefore] at hj
    by_cases heq : i = position
    · rw [if_pos heq] at hj
      cases hj
    · rw [if_neg heq] at hj
      obtain rfl := Option.some.inj hj
      exact previous_mem_afterDeletion h
        (Nat.lt_of_le_of_ne (Nat.le_of_not_lt hbefore) fun h => heq (Fin.eq_of_val_eq h.symm))

/-- A span that begins and ends within another one. -/
def Within (span other : Span) : Prop := span.start ∈ other ∧ span.stop ∈ other

/-- A span stays within another one when it is extended to a line of that. -/
theorem Within.including {other : Span} (h : span.Within other) (hi : i ∈ other) :
    (span.including i).Within other := by
  obtain ⟨hstart, hstop⟩ := h
  rw [mem_iff] at hstart hstop hi
  refine ⟨mem_iff.2 ?_, mem_iff.2 ?_⟩
  · rw [Span.including, Index.val_earlier]
    omega
  · rw [Span.including, Index.val_later]
    omega

/-- A span within another one adds nothing to it. -/
theorem Within.including_both {other : Span} (h : span.Within other) :
    (span.including other.start).including other.stop = other := by
  have hle : other.start.val ≤ other.stop.val := other.start_le_stop
  obtain ⟨hstart, hstop⟩ := h
  rw [mem_iff] at hstart hstop
  rw [Span.including, Span.including, Span.mk.injEq, Fin.ext_iff, Fin.ext_iff]
  simp only [Index.val_earlier, Index.val_later]
  omega

/-- A line of a span adds nothing to what holds the span. -/
theorem including_including {other : Span} {i : Index} (hi : i ∈ other) (span : Span) :
    (((span.including i).including i).including other.start).including other.stop =
      (span.including other.start).including other.stop := by
  rw [mem_iff] at hi
  simp only [including, mk.injEq, Fin.ext_iff, Index.val_earlier, Index.val_later]
  omega

end Span

/-! ### Ranges -/

namespace CellRange

variable {range : CellRange} {a : Address}

/-- A single cell is in its own range. -/
theorem mem_single : a ∈ single a := ⟨Span.mem_single, Span.mem_single⟩

/-- A range that is extended to a cell has the cell. -/
theorem mem_including (range : CellRange) (a : Address) : a ∈ range.including a :=
  ⟨Span.mem_including _ _, Span.mem_including _ _⟩

/-- A range that is extended loses no cell. -/
theorem mem_including_of_mem (h : a ∈ range) (b : Address) : a ∈ range.including b :=
  ⟨Span.mem_including_of_mem h.1 _, Span.mem_including_of_mem h.2 _⟩

/-- The union of two ranges has the cells of the first one. -/
theorem mem_union_left (h : a ∈ range) (other : CellRange) : a ∈ range.union other :=
  mem_including_of_mem (mem_including_of_mem h _) _

/-- A union with a single cell holds that cell. -/
theorem mem_union_single (range : CellRange) (a : Address) : a ∈ range.union (single a) :=
  mem_including _ a

/-- A range whose span along one axis is changed has the cells that are moved along with it. -/
theorem mem_mapAxis {axis : Axis} {f : Span → Span} {i : Index} (h : a ∈ range)
    (hi : ∀ span, a.along axis ∈ span → i ∈ f span) :
    a.withIndex axis i ∈ range.mapAxis axis f := by
  cases axis with
  | row => exact ⟨hi _ h.1, h.2⟩
  | column => exact ⟨h.1, hi _ h.2⟩

/-- A range that begins and ends within another one. -/
def Within (range other : CellRange) : Prop :=
  range.rows.Within other.rows ∧ range.columns.Within other.columns

/-- The range of a single cell is within every range that has the cell. -/
theorem Within.single {other : CellRange} (h : a ∈ other) : (single a).Within other :=
  ⟨⟨h.1, h.1⟩, h.2, h.2⟩

/-- A range stays within another one when a cell of that is taken in. -/
theorem Within.union_single {other : CellRange} (h : range.Within other) (ha : a ∈ other) :
    (range.union (CellRange.single a)).Within other :=
  ⟨(h.1.including ha.1).including ha.1, (h.2.including ha.2).including ha.2⟩

/-- A range within another one adds nothing to it. -/
theorem Within.union_eq {other : CellRange} (h : range.Within other) :
    range.union other = other := by
  rw [CellRange.union, CellRange.including, CellRange.including, CellRange.mk.injEq]
  exact ⟨h.1.including_both, h.2.including_both⟩

/-- A cell of a rectangle adds nothing to a union with the rectangle. -/
theorem union_single_union {block : CellRange} {a : Address} (ha : a ∈ block)
    (range : CellRange) : (range.union (single a)).union block = range.union block :=
  congrArg₂ CellRange.mk (Span.including_including ha.1 range.rows)
    (Span.including_including ha.2 range.columns)

end CellRange

/-! ### Sheets -/

namespace Worksheet

/-- The used range holds every cell. -/
def Covered (sheet : Worksheet) : Prop :=
  ∀ a v, sheet.value a = some v → ∃ range, sheet.used = some range ∧ a ∈ range

/-- The used range is within that of another sheet. -/
def UsedWithin (sheet other : Worksheet) : Prop :=
  ∀ range, sheet.used = some range →
    ∃ wider, other.used = some wider ∧ ∀ a ∈ range, a ∈ wider

namespace UsedWithin

theorem refl (sheet : Worksheet) : sheet.UsedWithin sheet :=
  fun range h => ⟨range, h, fun _ ha => ha⟩

theorem trans {first second third : Worksheet} (h : first.UsedWithin second)
    (h' : second.UsedWithin third) : first.UsedWithin third := by
  intro range hrange
  obtain ⟨wider, hwider, hsub⟩ := h range hrange
  obtain ⟨widest, hwidest, hsub'⟩ := h' wider hwider
  exact ⟨widest, hwidest, fun a ha => hsub' a (hsub a ha)⟩

/-- Sheets of the same used range. -/
theorem of_used {sheet other : Worksheet} (h : other.used = sheet.used) :
    sheet.UsedWithin other :=
  fun range hrange => ⟨range, h.trans hrange, fun _ ha => ha⟩

/-- What is covered besides makes the used range no smaller. -/
theorem cover (sheet : Worksheet) (range : CellRange) : sheet.UsedWithin (sheet.cover range) := by
  intro used hused
  refine ⟨used.union range, ?_, fun a ha => CellRange.mem_union_left ha range⟩
  rw [Worksheet.cover, hused]
  rfl

/-- Writing or clearing a cell does not shrink the used range. -/
theorem put (sheet : Worksheet) (a : Address) (v : Option CellValue) :
    sheet.UsedWithin (sheet.put a v) := by
  cases v with
  | none => exact of_used rfl
  | some v => exact cover sheet (.single a)

end UsedWithin

/-- What is covered besides is taken into the used range. -/
theorem used_cover (sheet : Worksheet) (range : CellRange) :
    (sheet.cover range).used = some (sheet.used.elim range (·.union range)) := by
  rw [cover]
  cases sheet.used <;> rfl

/-- A cell of a rectangle adds nothing to the used range when the rectangle comes into it. -/
theorem used_cover_put (sheet : Worksheet) {block : CellRange} {a : Address}
    (ha : a ∈ block) (value : Option CellValue) :
    ((sheet.put a value).cover block).used = (sheet.cover block).used := by
  cases value with
  | none => rfl
  | some value =>
    simp only [put, set, cover]
    cases sheet.used with
    | none => exact congrArg some (CellRange.Within.single ha).union_eq
    | some used => exact congrArg some (CellRange.union_single_union ha used)

/-- An inserted line moves the cells from its place on by one. -/
theorem cells_insertLine (sheet : Worksheet) (axis : Axis) (position : Index) :
    (sheet.insertLine axis position).cells = sheet.cells.move fun a =>
      some (a.withIndex axis ((a.along axis).afterInsertion position)) := rfl

/-- An inserted line makes the used range one line longer, unless it is behind the range. -/
theorem used_insertLine (sheet : Worksheet) (axis : Axis) (position : Index) :
    (sheet.insertLine axis position).used =
      sheet.used.map (·.mapAxis axis (·.afterInsertion position)) := rfl

/-- A deleted line takes its cells along, and those behind it move back by one. -/
theorem cells_deleteLine (sheet : Worksheet) (axis : Axis) (position : Index) :
    (sheet.deleteLine axis position).cells = sheet.cells.move fun a =>
      ((a.along axis).afterDeletion position).map (a.withIndex axis) := rfl

/-- A deleted line makes the used range one line shorter, or moves it if it was in front of it. -/
theorem used_deleteLine (sheet : Worksheet) (axis : Axis) (position : Index) :
    (sheet.deleteLine axis position).used =
      sheet.used.map (·.mapAxis axis (·.afterDeletion position)) := rfl

namespace Covered

variable {sheet : Worksheet}

/-- The used range of a covered sheet has each of its cells. -/
theorem mem_of_used (h : sheet.Covered) {range : CellRange} (hused : sheet.used = some range)
    {cell : Address × CellValue} (hcell : cell ∈ sheet.cells.entries) : cell.1 ∈ range := by
  obtain ⟨other, hother, hmem⟩ := h cell.1 cell.2 (Sparse.get?_eq_some_iff.2 hcell)
  rw [hused] at hother
  rw [Option.some.inj hother]
  exact hmem

/-- A sheet without a used range has no cells. -/
theorem not_mem_of_used (h : sheet.Covered) (hused : sheet.used = none)
    (cell : Address × CellValue) : cell ∉ sheet.cells.entries := by
  intro hcell
  obtain ⟨range, hrange, -⟩ := h cell.1 cell.2 (Sparse.get?_eq_some_iff.2 hcell)
  rw [hused] at hrange
  cases hrange

/-- An empty sheet has no cell that would have to be covered. -/
theorem empty (name : String) : (Worksheet.empty name).Covered := by
  intro a v h
  cases h

/-- A sheet that has no other cells, and a used range that is as wide. -/
theorem of_usedWithin {other : Worksheet} (h : sheet.Covered) (hused : sheet.UsedWithin other)
    (hcells : ∀ a v, other.value a = some v → sheet.value a = some v) : other.Covered := by
  intro a v hv
  obtain ⟨range, hrange, ha⟩ := h a v (hcells a v hv)
  obtain ⟨wider, hwider, hsub⟩ := hused range hrange
  exact ⟨wider, hwider, hsub a ha⟩

/-- Cells stay covered when more is covered. -/
theorem cover (h : sheet.Covered) (range : CellRange) : (sheet.cover range).Covered :=
  h.of_usedWithin (.cover sheet range) fun _ _ hv => hv

/-- A cell that is written is covered, and the others still are. -/
theorem set (h : sheet.Covered) (a : Address) (value : CellValue) :
    (sheet.set a value).Covered := by
  intro b v hv
  rw [value_set] at hv
  split at hv
  · rename_i heq
    subst heq
    cases hused : sheet.used with
    | none =>
      refine ⟨.single a, ?_, CellRange.mem_single⟩
      rw [Worksheet.set, Worksheet.cover, hused]
      rfl
    | some used =>
      refine ⟨used.union (.single a), ?_, CellRange.mem_union_single used a⟩
      rw [Worksheet.set, Worksheet.cover, hused]
      rfl
  · exact h.cover (.single a) b v hv

/-- The cells that are left after one was cleared are still covered. -/
theorem clear (h : sheet.Covered) (a : Address) : (sheet.clear a).Covered := by
  refine h.of_usedWithin (.of_used rfl) fun b v hv => ?_
  rw [value_clear] at hv
  split at hv
  · cases hv
  · exact hv

/-- Cells stay covered when one is written or cleared. -/
theorem put (h : sheet.Covered) (a : Address) (v : Option CellValue) : (sheet.put a v).Covered := by
  cases v with
  | none => exact h.clear a
  | some v => exact h.set a v

/-- A change that touches neither the cells nor the used range. -/
theorem of_cells (h : sheet.Covered) {other : Worksheet} (hcells : other.cells = sheet.cells)
    (hused : other.used = sheet.used) : other.Covered :=
  h.of_usedWithin (.of_used hused) fun a v hv => by rwa [value, hcells] at hv

/-- A change that moves the cells, and the used range with them. -/
theorem move (h : sheet.Covered) {other : Worksheet} {target : Address → Option Address}
    {f : CellRange → CellRange} (hcells : other.cells = sheet.cells.move target)
    (hused : other.used = sheet.used.map f)
    (hf : ∀ range a b, a ∈ range → target a = some b → b ∈ f range) : other.Covered := by
  intro b v hv
  rw [value, hcells] at hv
  obtain ⟨a, ha, htarget⟩ := Sparse.get?_move hv
  obtain ⟨range, hrange, hmem⟩ := h a v ha
  exact ⟨f range, by rw [hused, hrange, Option.map_some], hf range a b hmem htarget⟩

/-- No cell is moved out of the used range when a line is inserted. -/
theorem insertLine (h : sheet.Covered) (axis : Axis) (position : Index) :
    (sheet.insertLine axis position).Covered := by
  refine h.move (cells_insertLine sheet axis position) (used_insertLine sheet axis position)
    fun range a b ha hb => ?_
  obtain rfl := Option.some.inj hb
  exact CellRange.mem_mapAxis ha fun span hspan => Span.mem_afterInsertion hspan position

/-- No cell is moved out of the used range when a line is deleted. -/
theorem deleteLine (h : sheet.Covered) (axis : Axis) (position : Index) :
    (sheet.deleteLine axis position).Covered := by
  refine h.move (cells_deleteLine sheet axis position) (used_deleteLine sheet axis position)
    fun range a b ha hb => ?_
  obtain ⟨j, hj, rfl⟩ := Option.map_eq_some_iff.1 hb
  exact CellRange.mem_mapAxis ha fun span hspan => Span.mem_afterDeletion hspan hj

end Covered

end Worksheet

end EnsembleDesk

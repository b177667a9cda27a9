import EnsembleDesk.Proofs.Sheet.Extents
import EnsembleDesk.Sheet.Selection
/-!
# Selections that are cut back

A selection that has no bound along some axis is cut back to the used range. Along that axis it ends
with the used range then, and along the other one where it did (`Selection.stop_along_clamped`). No
cell that is not empty is lost or added (`Selection.mem_clamped_iff`), since the used range holds
all of them.
-/

namespace EnsembleDesk

namespace Span

variable {span cut : Span} {i last : Index}

/-- A span that begins at a line or before is cut back to that line if it has no bound. -/
theorem cutBack_eq_some_iff :
    span.cutBack last = some cut ↔
      cut.start = span.start ∧
        cut.stop = (if span.stop = Index.unbounded then last else span.stop) ∧
        span.start ≤ last := by
  rw [cutBack, Option.dite_none_right_eq_some]
  constructor
  · rintro ⟨hle, h⟩
    obtain ⟨hstart, h⟩ := Option.ite_none_right_eq_some.1 h
    rw [← Option.some.inj h]
    exact ⟨rfl, rfl, hstart⟩
  · rintro ⟨hstart, hstop, hle⟩
    have hordered := cut.start_le_stop
    rw [hstart, hstop] at hordered
    refine ⟨hordered, ?_⟩
    rw [if_pos hle, Option.some.injEq, Span.mk.injEq]
    exact ⟨hstart.symm, hstop.symm⟩

/-- Nothing is added when a span is cut back. -/
theorem mem_of_mem_cutBack (hcut : span.cutBack last = some cut) (hi : i ∈ cut) : i ∈ span := by
  obtain ⟨hstart, hstop, -⟩ := cutBack_eq_some_iff.1 hcut
  obtain ⟨hle, hle'⟩ := hi
  rw [hstart] at hle
  rw [hstop] at hle'
  refine ⟨hle, ?_⟩
  -- a last line that was replaced had no bound
  by_cases hbound : span.stop = .unbounded
  · rw [hbound]
    exact Index.le_unbounded i
  · rwa [if_neg hbound] at hle'

/-- A line of a span is kept when the span is cut back to that line or behind it. -/
theorem exists_cutBack (hi : i ∈ span) (hlast : i ≤ last) :
    ∃ cut, span.cutBack last = some cut ∧ i ∈ cut := by
  have hstop : i ≤ if span.stop = Index.unbounded then last else span.stop := by
    split
    · exact hlast
    · exact hi.2
  exact ⟨⟨span.start, _, Nat.le_trans hi.1 hstop⟩,
    cutBack_eq_some_iff.2 ⟨rfl, rfl, Nat.le_trans hi.1 hlast⟩, hi.1, hstop⟩

end Span

namespace Selection

variable {selection : Selection} {used cut : CellRange}

/-- A selection has no bound just if one of its corners has none along some axis. -/
theorem isUnbounded_iff :
    selection.isUnbounded = true ↔
      ∃ axis, selection.anchor.along axis = .unbounded ∨
        selection.corner.along axis = .unbounded := by
  simp only [isUnbounded, List.contains_iff_mem, List.mem_cons, List.not_mem_nil, or_false]
  constructor
  · rintro (h | h | h | h)
    · exact ⟨.row, .inl h.symm⟩
    · exact ⟨.column, .inl h.symm⟩
    · exact ⟨.row, .inr h.symm⟩
    · exact ⟨.column, .inr h.symm⟩
  · rintro ⟨axis, h | h⟩ <;> cases axis <;> simp_all [Address.along]

/-- The rectangle of a selection ends where its further corner is. -/
theorem val_stop_along_range (selection : Selection) (axis : Axis) :
    ((selection.range.along axis).stop).val =
      max (selection.anchor.along axis).val (selection.corner.along axis).val := by
  rw [range, CellRange.along_spanning]
  exact Index.val_later _ _

/-- A selection without a bound is cut back along both axes. -/
theorem clamped_eq_some_iff (hunbounded : selection.isUnbounded = true) :
    selection.clamped (some used) = some cut ↔
      ∀ axis, (selection.range.along axis).cutBack (used.along axis).stop =
        some (cut.along axis) := by
  obtain ⟨rows, columns⟩ := cut
  rw [clamped, if_pos hunbounded]
  simp only [Option.bind_eq_bind, Option.bind_some, Option.bind_eq_some_iff, Option.some.injEq,
    CellRange.mk.injEq]
  constructor
  · rintro ⟨rows, hrows, columns, hcolumns, rfl, rfl⟩ axis
    cases axis with
    | row => exact hrows
    | column => exact hcolumns
  · intro h
    exact ⟨rows, h .row, columns, h .column, rfl, rfl⟩

/-- Along an axis without a bound, a selection is cut back to the end of the used range; along the
others it ends where it did. -/
theorem stop_along_clamped (h : selection.clamped (some used) = some cut) (axis : Axis) :
    (cut.along axis).stop =
      if (selection.range.along axis).stop = .unbounded then (used.along axis).stop
      else (selection.range.along axis).stop := by
  by_cases hunbounded : selection.isUnbounded = true
  · exact (Span.cutBack_eq_some_iff.1 ((clamped_eq_some_iff hunbounded).1 h axis)).2.1
  · rw [clamped, if_neg hunbounded] at h
    obtain rfl := Option.some.inj h
    rw [if_neg]
    -- a rectangle that ends on the last line has a corner there
    intro hstop
    have hval := val_stop_along_range selection axis
    rw [hstop] at hval
    refine hunbounded (isUnbounded_iff.2 ⟨axis, ?_⟩)
    rw [Fin.ext_iff, Fin.ext_iff]
    omega

/-- Cutting a selection back keeps its cells that are not empty, and adds none. -/
theorem mem_clamped_iff {sheet : Worksheet} (h : sheet.Covered) {a : Address}
    (ha : sheet.value a ≠ none) (selection : Selection) :
    a ∈ selection.range ↔ ∃ cut, selection.clamped sheet.used = some cut ∧ a ∈ cut := by
  obtain ⟨v, hv⟩ := Option.ne_none_iff_exists'.1 ha
  obtain ⟨used, hused, hmem⟩ := h a v hv
  rw [hused]
  by_cases hunbounded : selection.isUnbounded = true
  · simp only [clamped_eq_some_iff hunbounded]
    constructor
    · -- the used range ends behind the cell along both axes
      rintro ⟨hrow, hcolumn⟩
      obtain ⟨rows, hrows, hrow⟩ := Span.exists_cutBack hrow hmem.1.2
      obtain ⟨columns, hcolumns, hcolumn⟩ := Span.exists_cutBack hcolumn hmem.2.2
      refine ⟨⟨rows, columns⟩, fun axis => ?_, hrow, hcolumn⟩
      cases axis with
      | row => exact hrows
      | column => exact hcolumns
    · rintro ⟨cut, hcut, hrow, hcolumn⟩
      exact ⟨Span.mem_of_mem_cutBack (hcut .row) hrow,
        Span.mem_of_mem_cutBack (hcut .column) hcolumn⟩
  · rw [clamped, if_neg hunbounded]
    exact ⟨fun h => ⟨_, rfl, h⟩, fun ⟨_, heq, h⟩ => Option.some.inj heq ▸ h⟩

end Selection

end EnsembleDesk

import EnsembleDesk.Proofs.Sheet.Extents
import EnsembleDesk.Proofs.Sheet.Lines
import Mathlib.Logic.Function.Iterate
/-!
# The used range around an inserted line

Deleting a line that was just inserted gives the same cells and the same sizes again
(`Worksheet.insertLine_deleteLine_reindex`), but not the same used range. An insertion in front of
the used range moves its end and leaves its start, while a deletion in front of it moves both; so
the two of them together take the start one line up. What is left is `Span.widened`: it holds the
old range, and grows by one line at each turn until it begins at the line itself.

## Main results

* `Span.afterDeletion_afterInsertion`: what is left of a span after one turn;
* `Worksheet.used_insertLine_deleteLine`: the used range after any number of turns, and that it is
  the same again exactly if the line does not come before it.
-/

namespace EnsembleDesk

namespace Span

variable {span : Span} {i : Index}

/-- A span whose start has come up by `n` lines, but not beyond `i`. -/
def widened (span : Span) (i : Index) (n : Nat) : Span :=
  ⟨span.start.earlier (i.later (.capped (span.start.val - n))), span.stop, by
    have := span.start_le_stop
    rw [Fin.le_def] at this ⊢
    rw [Index.val_earlier]
    omega⟩

/-- The start of a widened span: by `n` lines less, but not below `i` and never above the old
start. -/
theorem val_start_widened (span : Span) (i : Index) (n : Nat) :
    (span.widened i n).start.val = min span.start.val (max i.val (span.start.val - n)) := by
  have hstart := span.start.isLt
  rw [widened, Index.val_earlier, Index.val_later, Index.val_capped]
  omega

/-- A span is a widened one if and only if its end is the old one and its start has come up by that
many lines. -/
theorem eq_widened_iff {other : Span} {n : Nat} :
    other = span.widened i n ↔ other.stop = span.stop ∧
      other.start.val = min span.start.val (max i.val (span.start.val - n)) := by
  rw [← val_start_widened, ← Fin.ext_iff]
  constructor
  · rintro rfl
    exact ⟨rfl, rfl⟩
  · rintro ⟨hstop, hstart⟩
    obtain ⟨start, stop, hle⟩ := other
    obtain rfl : stop = span.stop := hstop
    obtain rfl : start = (span.widened i n).start := hstart
    rfl

/-- A span that is widened by no lines stays as it is. -/
theorem widened_zero (span : Span) (i : Index) : span.widened i 0 = span :=
  (eq_widened_iff.2 ⟨rfl, by omega⟩).symm

/-- Widening by one more line is widening once, by a line more. -/
theorem widened_widened (span : Span) (i : Index) (n : Nat) :
    (span.widened i n).widened i 1 = span.widened i (n + 1) := by
  refine eq_widened_iff.2 ⟨rfl, ?_⟩
  rw [val_start_widened, val_start_widened]
  omega

/-- A span begins where it did unless it begins behind the line up to which it is widened. -/
theorem widened_one_eq_iff : span.widened i 1 = span ↔ span.start ≤ i := by
  rw [eq_comm, eq_widened_iff, and_iff_right rfl, Fin.le_def]
  omega

/-- A span after a line was inserted and deleted again. Its end is back, but the deletion takes its
start one line up when the line stands in front of it, and the insertion has not moved it. -/
theorem afterDeletion_afterInsertion (h : span.stop ≠ .unbounded) (i : Index) :
    (span.afterInsertion i).afterDeletion i = span.widened i 1 := by
  have hle : span.start.val ≤ span.stop.val := span.start_le_stop
  have hnext : span.stop.next.val = span.stop.val + 1 :=
    Index.val_next_of_lt (Index.lt_unbounded_iff.2 h)
  rw [eq_widened_iff, Fin.ext_iff, afterInsertion]
  -- the end moves only if the line stands in front of it, and then it is taken back
  by_cases hgrown : i.val ≤ span.stop.val
  · rw [if_pos (show i ≤ span.stop from hgrown), afterDeletion]
    by_cases hbefore : i.val < span.start.val
    · rw [if_pos (show i < span.start from hbefore)]
      simp only [Index.val_previous, hnext]
      omega
    · have hspan : i ≤ span.stop.next ∧ span.start < span.stop.next := by
        rw [Fin.le_def, Fin.lt_def]
        omega
      rw [if_neg (show ¬ i < span.start from hbefore), dif_pos hspan]
      simp only [Index.val_previous, hnext]
      omega
  · have hbefore : ¬ i < span.start := by
      rw [Fin.lt_def]
      omega
    rw [if_neg (show ¬ i ≤ span.stop from hgrown), afterDeletion, if_neg hbefore,
      dif_neg fun hspan => hgrown hspan.1]
    omega

end Span

namespace CellRange

variable {range : CellRange} {axis : Axis} {f g : Span → Span}

/-- Two changes along an axis are one change along it. -/
theorem mapAxis_mapAxis (range : CellRange) (axis : Axis) (f g : Span → Span) :
    (range.mapAxis axis f).mapAxis axis g = range.mapAxis axis fun span => g (f span) := by
  cases axis <;> rfl

/-- Changes along an axis are equal if they do the same to the lines of that axis. -/
theorem mapAxis_congr (h : f (range.along axis) = g (range.along axis)) :
    range.mapAxis axis f = range.mapAxis axis g := by
  cases axis with
  | row => exact congrArg (fun rows => CellRange.mk rows range.columns) h
  | column => exact congrArg (fun columns => CellRange.mk range.rows columns) h

/-- A change along an axis changes nothing if and only if it keeps the lines of that axis. -/
theorem mapAxis_eq_self_iff :
    range.mapAxis axis f = range ↔ f (range.along axis) = range.along axis := by
  obtain ⟨rows, columns⟩ := range
  cases axis <;> simp [mapAxis, along]

end CellRange

namespace Worksheet

variable {sheet : Worksheet} {axis : Axis}

/-- The used range of a sheet after a line was inserted and deleted again. -/
theorem used_deleteLine_insertLine
    (h : ∀ range ∈ sheet.used, (range.along axis).stop ≠ .unbounded) (i : Index) :
    ((sheet.insertLine axis i).deleteLine axis i).used =
      sheet.used.map (·.mapAxis axis (·.widened i 1)) := by
  rw [used_deleteLine, used_insertLine, Option.map_map]
  refine Option.map_congr fun range hrange => ?_
  rw [Function.comp_apply, CellRange.mapAxis_mapAxis]
  exact CellRange.mapAxis_congr (Span.afterDeletion_afterInsertion (h range hrange) i)

/-- A line is inserted and deleted again, any number of times. The used range keeps its end, and its
start comes up by one line at each turn until it is at the line; so a used range below the last
index is the same again exactly if the line does not come before it. -/
theorem used_insertLine_deleteLine (sheet : Worksheet) (axis : Axis) (i : Index)
    (h : ∀ range ∈ sheet.used, (range.along axis).stop ≠ .unbounded) :
    (∀ n : Nat, ((fun sheet => (sheet.insertLine axis i).deleteLine axis i)^[n] sheet).used =
      sheet.used.map (·.mapAxis axis (·.widened i n))) ∧
      (((sheet.insertLine axis i).deleteLine axis i).used = sheet.used ↔
        ∀ range ∈ sheet.used, (range.along axis).start ≤ i) := by
  constructor
  · intro n
    -- each turn widens the used range once more, which is widening by one line more
    induction n with
    | zero =>
      cases hused : sheet.used with
      | none => exact hused
      | some range =>
        rw [Function.iterate_zero_apply, hused, Option.map_some,
          CellRange.mapAxis_eq_self_iff.2 (Span.widened_zero _ i)]
    | succ n ih =>
      rw [Function.iterate_succ_apply', used_deleteLine_insertLine, ih, Option.map_map]
      · refine Option.map_congr fun range _ => ?_
        rw [Function.comp_apply, CellRange.mapAxis_mapAxis]
        exact CellRange.mapAxis_congr (Span.widened_widened _ i n)
      · -- the end of the used range is where it was, below the last index
        intro range hrange
        rw [ih] at hrange
        obtain ⟨before, hbefore, rfl⟩ := Option.map_eq_some_iff.1 hrange
        rw [CellRange.along_mapAxis, if_pos rfl]
        exact h before hbefore
  · rw [used_deleteLine_insertLine h]
    cases sheet.used with
    | none => simp
    | some range => simp [CellRange.mapAxis_eq_self_iff, Span.widened_one_eq_iff]

/-- A sheet with a text in its third row. -/
def textInThirdRow : Worksheet := (empty "Sheet 1").set ⟨2, 0⟩ (.text "x")

theorem used_insertLine_deleteLine_textInThirdRow :
    (∀ range ∈ textInThirdRow.used, (range.along .row).stop ≠ .unbounded) ∧
      (∀ n : Nat, ((fun sheet => (sheet.insertLine .row 0).deleteLine .row 0)^[n]
          textInThirdRow).used =
        some ⟨(Span.single 2).widened 0 n, .single 0⟩) ∧
      ((textInThirdRow.insertLine .row 0).deleteLine .row 0).used ≠ textInThirdRow.used ∧
      ((textInThirdRow.insertLine .row 2).deleteLine .row 2).used = textInThirdRow.used := by
  have hbelow : ∀ range ∈ textInThirdRow.used, (range.along .row).stop ≠ .unbounded := by decide
  obtain ⟨hturns, hsame⟩ := used_insertLine_deleteLine textInThirdRow .row 0 hbelow
  refine ⟨hbelow, hturns, ?_, ?_⟩
  · rw [Ne, hsame]
    decide
  · rw [(used_insertLine_deleteLine textInThirdRow .row 2 hbelow).2]
    decide

/-- A line inserted above the used range and deleted again does not leave it as it was. -/
theorem used_range_not_restored :
    ¬ ∀ (sheet : Worksheet) (axis : Axis) (i : Index), sheet.LastFree axis →
      (∀ range ∈ sheet.used, (range.along axis).stop ≠ .unbounded) → i ≠ .unbounded →
      ((sheet.insertLine axis i).deleteLine axis i).used = sheet.used := by
  intro h
  have hsame := h textInThirdRow .row 0 (by decide) (by decide) (by decide)
  revert hsame
  decide

end Worksheet

end EnsembleDesk

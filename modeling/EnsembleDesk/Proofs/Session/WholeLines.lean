import EnsembleDesk.Proofs.Session.Typing
import EnsembleDesk.Proofs.Sheet.Selections
import Mathlib.Data.List.Induction
/-!
# Extending the selection of a whole line

A whole row or column is selected up to the last line, which stands for having no bound. An arrow
key that extends the selection moves its corner as any other cell, and a cell never moves to the
last line (`Index.offset_lt_unbounded`). So with the first such key, in whatever direction, the
selection of the whole line gets a bound, which is nearly the last line: it is not cut back to the
used range any more, and the sheet grows up to it. Only a selection that was moved, and not
extended, starts from its anchor when it has no bound.

## Main results

* `Editor.arrows_bound_whole_line`: what arrow keys make of the selection of a whole line;
* `Editor.whole_line_does_not_stay_whole`: one arrow key suffices.
-/

namespace EnsembleDesk

/-- The other direction in which cells are counted. -/
def Axis.other : Axis → Axis
  | .row => .column
  | .column => .row

namespace Index

variable {i : Index} {delta : Int}

/-- A cell does not move to the last line. -/
theorem offset_lt_unbounded (i : Index) (delta : Int) : i.offset delta < unbounded := by
  rw [Fin.lt_def, offset, val_capped, val_unbounded]
  omega

/-- A cell moves back by one line at most, if that is how far it is to move; so does one that is
kept from staying on the last line. -/
theorem val_le_offset (h : -1 ≤ delta) : i.val ≤ (i.offset delta).val + 1 := by
  have := i.isLt
  rw [offset, val_capped]
  omega

end Index

namespace Address

variable {a : Address} {axis : Axis} {direction : Direction}

/-- A neighbour is a cell, so it is in front of the last line. -/
theorem neighbour_lt_unbounded (a : Address) (direction : Direction) (axis : Axis) :
    (a.neighbour direction).along axis < .unbounded := by
  cases axis with
  | row => exact Index.offset_lt_unbounded _ _
  | column => exact Index.offset_lt_unbounded _ _

/-- A neighbour is one line back at most. -/
theorem val_le_neighbour (a : Address) (direction : Direction) (axis : Axis) :
    (a.along axis).val ≤ ((a.neighbour direction).along axis).val + 1 := by
  cases axis with
  | row => exact Index.val_le_offset (by cases direction <;> decide)
  | column => exact Index.val_le_offset (by cases direction <;> decide)

end Address

namespace Selection

variable {axis : Axis} {i : Index} {directions : List Direction}

/-! ### Extending the selection of a line -/

/-- The selection of a whole row or column. -/
def entireLine : Axis → Index → Selection
  | .row, i => .entireRow i
  | .column, i => .entireColumn i

/-- The selection of a whole line after its corner was moved in directions, one after the other. -/
def stretched (axis : Axis) (i : Index) (directions : List Direction) : Selection :=
  directions.foldl extended (entireLine axis i)

/-- Without a direction the whole line is selected. -/
@[simp]
theorem stretched_nil (axis : Axis) (i : Index) : stretched axis i [] = entireLine axis i := rfl

/-- The last direction moves the corner last. -/
@[simp]
theorem stretched_append_singleton (axis : Axis) (i : Index) (directions : List Direction)
    (direction : Direction) :
    stretched axis i (directions ++ [direction]) =
      (stretched axis i directions).extended direction :=
  List.foldl_append

/-- The directions move the corner alone. -/
theorem anchor_stretched (axis : Axis) (i : Index) (directions : List Direction) :
    (stretched axis i directions).anchor = (entireLine axis i).anchor := by
  induction directions using List.reverseRecOn with
  | nil => rfl
  | append_singleton directions direction ih =>
    rw [stretched_append_singleton]
    exact ih

/-- A whole line is anchored in itself. -/
theorem anchor_entireLine_along (axis : Axis) (i : Index) :
    (entireLine axis i).anchor.along axis = i := by
  cases axis <;> rfl

/-- A whole line is anchored at its beginning. -/
theorem anchor_entireLine_other (axis : Axis) (i : Index) :
    (entireLine axis i).anchor.along axis.other = .first := by
  cases axis <;> rfl

/-- A whole line reaches to the end of all lines across. -/
theorem corner_entireLine_other (axis : Axis) (i : Index) :
    (entireLine axis i).corner.along axis.other = .unbounded := by
  cases axis <;> rfl

/-- When its corner was moved at all, the selection of a line has a bound. -/
theorem corner_stretched_lt (hdirections : directions ≠ []) (along : Axis) :
    (stretched axis i directions).corner.along along < .unbounded := by
  induction directions using List.reverseRecOn with
  | nil => exact absurd rfl hdirections
  | append_singleton directions direction =>
    rw [stretched_append_singleton]
    exact Address.neighbour_lt_unbounded _ _ _

/-- A whole line stays whole only as long as its corner is not moved. -/
theorem corner_stretched_eq_unbounded_iff :
    (stretched axis i directions).corner.along axis.other = .unbounded ↔ directions = [] := by
  refine ⟨fun h => ?_, fun h => ?_⟩
  · by_contra hne
    exact absurd h (Fin.ne_of_lt (corner_stretched_lt hne _))
  · rw [h]
    exact corner_entireLine_other axis i

/-- The bound is no further from the last line than the corner was moved. -/
theorem le_corner_stretched (axis : Axis) (i : Index) (directions : List Direction) :
    Index.unbounded.val ≤
      ((stretched axis i directions).corner.along axis.other).val + directions.length := by
  induction directions using List.reverseRecOn with
  | nil => rw [stretched_nil, corner_entireLine_other]; exact Nat.le_refl _
  | append_singleton directions direction ih =>
    have hstep := Address.val_le_neighbour (stretched axis i directions).corner direction axis.other
    rw [stretched_append_singleton, List.length_append, List.length_singleton]
    change _ ≤ (((stretched axis i directions).corner.neighbour direction).along axis.other).val + _
    omega

/-- The rectangle ends at the corner, since the selection was begun in the first cell of the line.
-/
theorem stop_along_range_stretched (axis : Axis) (i : Index) (directions : List Direction) :
    ((stretched axis i directions).range.along axis.other).stop =
      (stretched axis i directions).corner.along axis.other := by
  rw [Fin.ext_iff, val_stop_along_range, anchor_stretched, anchor_entireLine_other]
  exact Nat.max_eq_right (Nat.zero_le _)

/-- When its corner was moved, the selection has a bound, unless it is that of the last line. -/
theorem isUnbounded_stretched_iff (hdirections : directions ≠ []) :
    (stretched axis i directions).isUnbounded = true ↔ i = .unbounded := by
  rw [isUnbounded_iff, anchor_stretched]
  constructor
  -- only the anchor may be on the last line, and only if that is the line that was selected
  · rintro ⟨along, h | h⟩
    · cases axis <;> cases along
      · exact h
      · cases h
      · cases h
      · exact h
    · exact absurd h (Fin.ne_of_lt (corner_stretched_lt hdirections along))
  · rintro rfl
    exact ⟨axis, .inl (anchor_entireLine_along axis _)⟩

end Selection

/-! ### Keys that extend the selection -/

namespace Editor

open Selection

variable {editor : Editor} {file : OpenFile} {axis : Axis} {i : Index} {directions : List Direction}

/-- The selection of the open file. -/
def selection? (editor : Editor) : Option Selection := editor.file.bind OpenFile.selection

/-- An editor in which a whole line was selected, and the selection was changed since then by arrow
keys that extend it, in the given directions, and by nothing else. -/
inductive Stretches (axis : Axis) (i : Index) : Editor → List Direction → Prop where
  /-- The line is selected. -/
  | select {editor : Editor} (reached : Reachable editor) (hopen : editor.file.isSome = true) :
    Stretches axis i (editor.perform (.command (.selectLine axis i))).2 []
  /-- An arrow key extends the selection. -/
  | extend {editor : Editor} {directions : List Direction} (h : Stretches axis i editor directions)
    (direction : Direction) :
    Stretches axis i (editor.perform (.command (.arrow direction true))).2
      (directions ++ [direction])
  /-- Something happens that leaves the selection as it is. -/
  | keep {editor : Editor} {directions : List Direction} (h : Stretches axis i editor directions)
    (event : Event) (hkeeps : (editor.on event).selection? = editor.selection?) :
    Stretches axis i (editor.on event) directions

/-- The selection of a whole line ends the typing first. -/
theorem perform_selectLine (hfile : editor.file = some file) (h : file.content.Sound) (axis : Axis)
    (i : Index) :
    ∃ committed, file.commit = .ok committed ∧
      editor.perform (.command (.selectLine axis i)) = (.ok .done, { editor with
        file := some { committed with selection := some (entireLine axis i) } }) := by
  obtain ⟨committed, hcommit, -⟩ := OpenFile.commit_content h
  refine ⟨committed, hcommit, ?_⟩
  simp only [perform, performCommand, changeFile, withFile, hfile, OpenFile.selectLine, hcommit,
    Except.ok_bind, Except.map]
  cases axis <;> rfl

/-- An arrow key that extends the selection ends the typing of a text and moves the corner. The
sheet grows up to the corner, if the selection has a bound. -/
theorem perform_arrow_extend (hfile : editor.file = some file) (h : file.content.Sound)
    {selection : Selection} (hselection : file.selection = some selection) (direction : Direction) :
    ∃ committed, file.commit = .ok committed ∧
      editor.perform (.command (.arrow direction true)) = (.ok .done, { editor with
        file := some { committed with
          selection := some (selection.extended direction)
          extent := if (selection.extended direction).isUnbounded then committed.extent
            else committed.extent.ensureCell (selection.extended direction).corner } }) := by
  obtain ⟨committed, hcommit, -⟩ := OpenFile.commit_content h
  have hkept := (OpenFile.selection_of_commit hcommit).trans hselection
  refine ⟨committed, hcommit, ?_⟩
  simp only [perform, performCommand, changeFile, withFile, hfile, OpenFile.arrow, hcommit,
    Except.ok_bind, Except.map, hkept, OpenFile.arrowed, if_true]

/-- The run leads to a reachable editor, and its selection is known. -/
theorem Stretches.selection (h : Stretches axis i editor directions) :
    Reachable editor ∧ editor.selection? = some (stretched axis i directions) := by
  induction h with
  | @select editor reached hopen =>
    have hfile := (Option.some_get hopen).symm
    obtain ⟨committed, -, hperform⟩ := perform_selectLine hfile (reached.sound hfile) axis i
    refine ⟨reached.perform _, ?_⟩
    rw [hperform]
    rfl
  | @extend editor directions _ direction ih =>
    obtain ⟨reached, hselection⟩ := ih
    obtain ⟨file, hfile, hselection⟩ := Option.bind_eq_some_iff.1 hselection
    obtain ⟨committed, -, hperform⟩ :=
      perform_arrow_extend hfile (reached.sound hfile) hselection direction
    refine ⟨reached.perform _, ?_⟩
    rw [hperform, stretched_append_singleton]
    rfl
  | keep _ event hkeeps ih => exact ⟨ih.1.through [event], hkeeps.trans ih.2⟩

/-- What arrow keys make of the selection of a whole line. It is begun where the line begins. Across
the line it has no bound just as long as no key extended it; then it has one, which is no further
from the last line than keys were pressed. What is copied or cleared ends with the used range before
and at the corner afterwards, when the rectangle is not cut back any more, unless the line is the
last one. Each key lets the sheet grow up to the corner, the first one up to the last line; only the
selection of the last line never does. -/
theorem arrows_bound_whole_line (h : Stretches axis i editor directions) :
    ∃ file selection, editor.file = some file ∧ file.selection = some selection ∧
      selection.anchor = (entireLine axis i).anchor ∧
      (selection.corner.along axis.other = .unbounded ↔ directions = []) ∧
      Index.unbounded.val ≤
        (selection.corner.along axis.other).val + directions.length ∧
      (∀ used range, selection.clamped (some used) = some range →
        (range.along axis.other).stop =
          if directions = [] then (used.along axis.other).stop
          else selection.corner.along axis.other) ∧
      (directions ≠ [] → i ≠ .unbounded →
        ∀ used, selection.clamped used = some selection.range) ∧
      ∀ direction, ∃ committed after, file.commit = .ok committed ∧
        editor.perform (.command (.arrow direction true)) =
          (.ok .done, { editor with file := some after }) ∧
        after.selection = some (selection.extended direction) ∧
        after.extent.along axis.other =
          (if i = .unbounded then committed.extent.along axis.other
          else (committed.extent.along axis.other).later
            ((selection.extended direction).corner.along axis.other).next) ∧
        (directions = [] → i ≠ .unbounded → after.extent.along axis.other = .unbounded) := by
  obtain ⟨reached, hselection⟩ := h.selection
  obtain ⟨file, hfile, hselection⟩ := Option.bind_eq_some_iff.1 hselection
  refine ⟨file, _, hfile, hselection, anchor_stretched axis i directions,
    corner_stretched_eq_unbounded_iff, le_corner_stretched axis i directions,
    fun used range hrange => ?_, fun hne hi used => ?_, fun direction => ?_⟩
  · -- cut back to the used range, the rectangle still ends at the corner
    rw [stop_along_clamped hrange, stop_along_range_stretched]
    simp only [corner_stretched_eq_unbounded_iff]
  · -- a corner in front of the last line is not cut back at all
    exact if_neg ((isUnbounded_stretched_iff hne).not.2 hi)
  · obtain ⟨committed, hcommit, hperform⟩ :=
      perform_arrow_extend hfile (reached.sound hfile) hselection direction
    have hbounded : ((stretched axis i directions).extended direction).isUnbounded = true ↔
        i = .unbounded := by
      rw [← stretched_append_singleton]
      exact isUnbounded_stretched_iff (List.append_ne_nil_of_right_ne_nil _ (List.cons_ne_nil _ _))
    refine ⟨committed, _, hcommit, hperform, rfl, ?_, fun hnil hi => ?_⟩
    · simp only [hbounded]
      split
      · rfl
      · exact Extent.along_ensureCell _ _ _
    · -- the corner comes to the line in front of the last one
      let corner := ((stretched axis i directions).extended direction).corner
      have hlt : corner.along axis.other < .unbounded := Address.neighbour_lt_unbounded _ _ _
      have hle : ((stretched axis i directions).corner.along axis.other).val ≤
          (corner.along axis.other).val + 1 := Address.val_le_neighbour _ _ _
      rw [corner_stretched_eq_unbounded_iff.2 hnil] at hle
      have hnext : (corner.along axis.other).next = .unbounded := by
        rw [Fin.ext_iff, Index.val_next_of_lt hlt]
        rw [Fin.lt_def] at hlt
        omega
      simp only [hbounded, if_neg hi, Extent.along_ensureCell]
      rw [show _ = Index.unbounded from hnext, Index.later, if_pos (Index.le_unbounded _)]

/-- The third row is selected in a sheet of one cell, and the selection is extended downwards. -/
def thirdRowStretched : Editor :=
  newFile.after [.write ⟨0, 0⟩ (some (.number 5)), .command (.selectLine .row 2),
    .command (.arrow .down true)]

/-- The third row was selected and then extended downwards. -/
theorem thirdRowStretched_stretches : Stretches .row 2 thirdRowStretched [.down] :=
  (Stretches.select (newFile_reachable.perform _) (by decide)).extend .down

/-- What is selected is one column short of whole rows. -/
theorem selection_thirdRowStretched :
    thirdRowStretched.selection? = some ⟨⟨2, 0⟩, ⟨3, 4294967294⟩⟩ := by
  decide +kernel

/-- Two rows are selected, up to the line in front of the last one, and are not cut back; another
key lets the sheet grow to the last line. -/
theorem arrows_bound_third_row :
    ∃ file selection, thirdRowStretched.file = some file ∧ file.selection = some selection ∧
      selection = ⟨⟨2, 0⟩, ⟨3, 4294967294⟩⟩ ∧
      (∀ used, selection.clamped used = some selection.range) ∧
      ∃ after,
        (thirdRowStretched.perform (.command (.arrow .up true))).2.file = some after ∧
        after.extent.columns = .unbounded := by
  obtain ⟨file, selection, hfile, hselection, -, -, -, -, hclamped, harrow⟩ :=
    arrows_bound_whole_line thirdRowStretched_stretches
  have hselected : thirdRowStretched.selection? = some selection :=
    Option.bind_eq_some_iff.2 ⟨file, hfile, hselection⟩
  obtain rfl := Option.some.inj (hselected.symm.trans selection_thirdRowStretched)
  obtain ⟨committed, after, -, hperform, -, hextent, -⟩ := harrow .up
  refine ⟨file, _, hfile, hselection, rfl, hclamped (by decide) (by decide), after, ?_, ?_⟩
  · rw [hperform]
  · refine hextent.trans ?_
    rw [if_neg (by decide), Index.later, if_pos]
    · rfl
    · exact Index.le_unbounded _

/-- The selection of a whole row does not stay whole when an arrow key extends it: it gets a bound,
beyond the used range, and the sheet grows with it. -/
theorem whole_line_does_not_stay_whole :
    ¬ ∀ (editor : Editor) (axis : Axis) (i : Index) (directions : List Direction)
        (file : OpenFile) (selection : Selection) (sheet : Worksheet),
      editor.Stretches axis i directions → editor.file = some file →
      file.selection = some selection → file.book.sheet? file.active = some sheet →
      selection.corner.along axis.other = .unbounded ∧
        (∀ used range, sheet.used = some used → selection.clamped sheet.used = some range →
          (range.along axis.other).stop ≤ (used.along axis.other).stop) ∧
        ∀ direction committed after, file.commit = .ok committed →
          (editor.perform (.command (.arrow direction true))).2.file = some after →
          after.extent.along axis.other = committed.extent.along axis.other := by
  intro h
  obtain ⟨file, hfile, hselection⟩ := Option.bind_eq_some_iff.1 selection_thirdRowStretched
  have reached := thirdRowStretched_stretches.selection.1
  obtain ⟨sheet, hsheet, -⟩ := OpenFile.exists_sheet (reached.sound hfile)
  have hcorner := (h _ _ _ _ file _ sheet thirdRowStretched_stretches hfile hselection hsheet).1
  exact absurd hcorner (by decide)

end Editor

end EnsembleDesk

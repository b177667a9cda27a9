import EnsembleDesk.Proofs.Sheet.UsedRange
import EnsembleDesk.Sheet.Viewport
/-!
# Extents

An extent is looked at along one axis at a time (`Extent.along`). It takes in cells without ever
shrinking, and an event of scrolling adds at most one line along each axis, and only when it goes
beyond the position that the extent was last scrolled to (`Extent.growsBeyond_afterScroll`).

`Worksheet.UsedBelow` bounds the used range of a sheet along both axes. It says what an extent must
have to show all that is used.
-/

namespace EnsembleDesk

variable {α : Type}

/-- The number along an axis: how far down the rows, or along the columns. -/
def Pair.along (pair : Pair α) : Axis → α
  | .row => pair.top
  | .column => pair.left

/-- To reach beyond the later of two lines is to reach beyond both. -/
theorem Index.later_next_later {i j k : Index} (h : j ≤ k) :
    (i.later j.next).later k.next = i.later k.next := by
  rw [Fin.le_def] at h
  simp only [Fin.ext_iff, val_later, val_next]
  omega

namespace Extent

/-- The number of lines along an axis. -/
def along (extent : Extent α) : Axis → Index
  | .row => extent.rows
  | .column => extent.columns

/-- Along each axis the extent reaches beyond the cell. -/
theorem along_ensureCell (extent : Extent α) (a : Address) (axis : Axis) :
    (extent.ensureCell a).along axis = (extent.along axis).later (a.along axis).next := by
  cases axis <;> rfl

/-- An extent does not shrink when a cell comes within it. -/
theorem along_le_ensureCell (extent : Extent α) (a : Address) (axis : Axis) :
    extent.along axis ≤ (extent.ensureCell a).along axis := by
  rw [along_ensureCell, Fin.le_def, Index.val_later]
  exact Nat.le_max_left _ _

/-- A cell that was taken in is within the extent. -/
theorem next_le_ensureCell (extent : Extent α) (a : Address) (axis : Axis) :
    (a.along axis).next ≤ (extent.ensureCell a).along axis := by
  rw [along_ensureCell, Fin.le_def, Index.val_later]
  exact Nat.le_max_right _ _

/-- A cell of a rectangle adds nothing to the extent when the last cell comes into it. -/
theorem ensureCell_ensureCell (extent : Extent α) {block : CellRange}
    {a : Address} (ha : a ∈ block) :
    (extent.ensureCell a).ensureCell block.stop = extent.ensureCell block.stop := by
  simp only [ensureCell, ensure]
  exact congrArg₂ (Extent.mk · · _ _)
    (Index.later_next_later ha.1.2) (Index.later_next_later ha.2.2)

/-- A cell up to one in front of the last lines is within the extent when that one is. -/
theorem along_lt_ensureCell (extent : Extent α) {a b : Address} {axis : Axis}
    (h : a.along axis ≤ b.along axis) (hb : b.along axis < Index.unbounded) :
    a.along axis < (extent.ensureCell b).along axis := by
  have hnext := extent.next_le_ensureCell b axis
  rw [Fin.le_def, Index.val_next_of_lt hb] at hnext
  rw [Fin.le_def] at h
  rw [Fin.lt_def]
  omega

/-! ### Scrolling -/

variable [Scalar α]

/-- An extent after an event of scrolling: along both axes it has as many lines as before, or one
more if the event goes beyond a position. -/
structure GrowsBeyond (before : Extent α) (position : Pair α) (event : ScrollEvent α)
    (after : Extent α) : Prop where
  /-- It does not shrink. -/
  le : ∀ axis, before.along axis ≤ after.along axis
  /-- It has at most one line more. -/
  step : ∀ axis, (after.along axis).val ≤ (before.along axis).val + 1
  /-- It grows only if the event goes beyond the position. -/
  beyond : ∀ axis, before.along axis < after.along axis →
    position.along axis < event.scroll.along axis

/-- Along each axis the extent grows by one line if the event goes far enough. -/
theorem along_afterScroll (extent : Extent α) (event : ScrollEvent α) (axis : Axis) :
    (extent.afterScroll event).along axis =
      if grows extent.threshold (extent.lastScroll.along axis) (event.scroll.along axis)
        (event.content.along axis) (event.client.along axis)
      then (extent.along axis).next else extent.along axis := by
  cases axis <;> rfl

/-- An extent grows beyond the position that it was last scrolled to. -/
theorem growsBeyond_afterScroll (extent : Extent α) (event : ScrollEvent α) :
    extent.GrowsBeyond extent.lastScroll event (extent.afterScroll event) := by
  refine ⟨fun axis => ?_, fun axis => ?_, fun axis hlt => ?_⟩
  · rw [along_afterScroll]
    split
    · exact Index.le_next _
    · exact Nat.le_refl _
  · rw [along_afterScroll]
    split
    · rw [Index.val_next]
      exact Nat.min_le_left _ _
    · exact Nat.le_succ _
  · rw [along_afterScroll] at hlt
    split at hlt
    · rename_i hgrows
      rw [grows, Bool.and_eq_true, decide_eq_true_eq] at hgrows
      exact hgrows.1
    · exact absurd hlt (Nat.lt_irrefl _)

end Extent

/-! ### Used ranges -/

namespace Span

/-- A span is not extended to a line that it has. -/
theorem including_of_mem {span : Span} {i : Index} (h : i ∈ span) : span.including i = span := by
  rw [mem_iff] at h
  rw [including, Span.mk.injEq, Fin.ext_iff, Fin.ext_iff, Index.val_earlier, Index.val_later]
  omega

/-- An inserted line moves the end of a span by one line at most. -/
theorem val_stop_afterInsertion_le (span : Span) (position : Index) :
    (span.afterInsertion position).stop.val ≤ span.stop.val + 1 := by
  rw [afterInsertion]
  split
  · rw [Index.val_next]
    exact Nat.min_le_left _ _
  · exact Nat.le_succ _

/-- A deleted line does not move the end of a span further away. -/
theorem val_stop_afterDeletion_le (span : Span) (position : Index) :
    (span.afterDeletion position).stop.val ≤ span.stop.val := by
  have hprevious := Index.val_previous span.stop
  rw [afterDeletion]
  -- the last line moves back by one, or stays
  split
  · simp only [hprevious]
    omega
  · split
    · simp only [hprevious]
      omega
    · exact Nat.le_refl _

end Span

namespace CellRange

/-- The lines of a range along an axis. -/
def along (range : CellRange) : Axis → Span
  | .row => range.rows
  | .column => range.columns

/-- The lines of a single cell. -/
theorem along_single (a : Address) (axis : Axis) :
    (single a).along axis = .single (a.along axis) := by
  cases axis <;> rfl

/-- The lines of a range between two cells. -/
theorem along_spanning (a b : Address) (axis : Axis) :
    (spanning a b).along axis = .between (a.along axis) (b.along axis) := by
  cases axis <;> rfl

/-- A change along one axis leaves the lines along the other one. -/
theorem along_mapAxis (range : CellRange) (axis other : Axis) (f : Span → Span) :
    (range.mapAxis axis f).along other =
      if other = axis then f (range.along other) else range.along other := by
  cases axis <;> cases other <;> rfl

/-- The lines of a union reach from the first to the last line of both. -/
theorem along_union (range other : CellRange) (axis : Axis) :
    (range.union other).along axis =
      ((range.along axis).including (other.along axis).start).including
        (other.along axis).stop := by
  cases axis <;> rfl

/-- The last line of a union is that of one of its ranges. -/
theorem val_stop_along_union (range other : CellRange) (axis : Axis) :
    ((range.union other).along axis).stop.val =
      max (range.along axis).stop.val (other.along axis).stop.val := by
  have hle : (other.along axis).start.val ≤ (other.along axis).stop.val :=
    (other.along axis).start_le_stop
  rw [along_union, Span.including, Span.including, Index.val_later, Index.val_later]
  omega

/-- A range that holds a cell is not extended by it. -/
theorem union_single_of_mem {range : CellRange} {a : Address} (h : a ∈ range) :
    range.union (single a) = range := by
  have hincluding : range.including a = range := by
    rw [including, Span.including_of_mem h.1, Span.including_of_mem h.2]
  exact (congrArg (·.including a) hincluding).trans hincluding

end CellRange

namespace Worksheet

/-- Along both axes, the used range ends below a limit. -/
def UsedBelow (sheet : Worksheet) (limit : Axis → Nat) : Prop :=
  ∀ range, sheet.used = some range → ∀ axis, (range.along axis).stop.next.val ≤ limit axis

namespace UsedBelow

variable {sheet other : Worksheet} {limit wider : Axis → Nat}

/-- A limit may be raised. -/
theorem mono (h : sheet.UsedBelow limit) (hle : ∀ axis, limit axis ≤ wider axis) :
    sheet.UsedBelow wider :=
  fun range hrange axis => Nat.le_trans (h range hrange axis) (hle axis)

/-- A sheet with the same used range stays below the limit. -/
theorem of_used (h : sheet.UsedBelow limit) (hused : other.used = sheet.used) :
    other.UsedBelow limit :=
  fun range hrange => h range (hused ▸ hrange)

/-- A range below the limit can be covered. -/
theorem cover (h : sheet.UsedBelow limit) {range : CellRange}
    (hrange : ∀ axis, (range.along axis).stop.next.val ≤ limit axis) :
    (sheet.cover range).UsedBelow limit := by
  intro used hused axis
  rw [Worksheet.cover, Option.some.injEq] at hused
  cases hbefore : sheet.used with
  | none =>
    rw [hbefore] at hused
    exact hused ▸ hrange axis
  | some before =>
    rw [hbefore, Option.map_some, Option.getD_some] at hused
    -- the union of the two ranges ends where one of them does
    have hlast := h before hbefore axis
    have hadded := hrange axis
    rw [Index.val_next] at hlast hadded
    rw [← hused, Index.val_next, CellRange.val_stop_along_union]
    omega

/-- A cell below the limit can be written or cleared. -/
theorem put (h : sheet.UsedBelow limit) {a : Address} (value : Option CellValue)
    (ha : ∀ axis, (a.along axis).next.val ≤ limit axis) : (sheet.put a value).UsedBelow limit := by
  cases value with
  | none => exact h.of_used rfl
  | some value =>
    have hsingle (axis : Axis) :
        (((CellRange.single a).along axis).stop.next).val ≤ limit axis := by
      rw [CellRange.along_single]
      exact ha axis
    exact (h.cover hsingle).of_used rfl

/-- A line that is inserted moves the end of the used range by one line at most. -/
theorem insertLine (h : sheet.UsedBelow limit) (axis : Axis) (position : Index) :
    (sheet.insertLine axis position).UsedBelow fun along =>
      limit along + if along = axis then 1 else 0 := by
  intro range hrange along
  rw [used_insertLine] at hrange
  obtain ⟨before, hbefore, rfl⟩ := Option.map_eq_some_iff.1 hrange
  have hlast := h before hbefore along
  have hmoved := (before.along along).val_stop_afterInsertion_le position
  rw [Index.val_next] at hlast
  rw [CellRange.along_mapAxis, Index.val_next]
  by_cases heq : along = axis
  · simp only [if_pos heq]
    omega
  · simp only [if_neg heq]
    omega

/-- A deleted line leaves the used range below the limit. -/
theorem deleteLine (h : sheet.UsedBelow limit) (axis : Axis) (position : Index) :
    (sheet.deleteLine axis position).UsedBelow limit := by
  intro range hrange along
  rw [used_deleteLine] at hrange
  obtain ⟨before, hbefore, rfl⟩ := Option.map_eq_some_iff.1 hrange
  have hlast := h before hbefore along
  have hmoved := (before.along along).val_stop_afterDeletion_le position
  rw [Index.val_next] at hlast
  rw [CellRange.along_mapAxis, Index.val_next]
  split <;> omega

end UsedBelow

end Worksheet

end EnsembleDesk

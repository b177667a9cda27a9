import EnsembleDesk.Proofs.Book.Built
import EnsembleDesk.Proofs.Sheet.Tables
/-!
# Inserting and deleting lines

A row or column that is inserted or deleted moves cells and sizes along the axis. As long as nothing
stands at the last index (`Worksheet.LastFree`), the two maps of indices are inverse to each other
(`Index.afterDeletion_eq_some_iff`), and every line of the new sheet is told by the one it comes
from: `Index.atInserted` and `Index.atDeleted` say which.

## Main results

* `Worksheet.LastFree.reindexed_insertLine`, `Worksheet.LastFree.reindexed_deleteLine`: the cells
  and the sizes along the axis are moved by the same map, the sizes along the other one stay;
* `Worksheet.insertLine_deleteLine_reindex`: both of them, that no cell outside a deleted line is
  lost or found twice, and that deleting an inserted line gives the same cells and sizes again.
-/

namespace EnsembleDesk

/-! ### Indices -/

namespace Index

variable {β : Type}

/-- What is at a line after a line was inserted at `position`, when `old` is what was at the lines
before. -/
def atInserted (position : Index) (old : Index → Option β) (i : Index) : Option β :=
  if i < position then old i else if i = position then none else old i.previous

/-- What is at a line after the line at `position` was deleted, when `old` is what was at the lines
before. Nothing follows the last line: there, `old` is asked for the last line itself. -/
def atDeleted (position : Index) (old : Index → Option β) (i : Index) : Option β :=
  if i < position then old i else old i.next

/-- What is at a line after an insertion was at the line that goes there. -/
theorem atInserted_eq_bind (position : Index) (old : Index → Option β) (i : Index) :
    atInserted position old i = (i.afterDeletion position).bind old := by
  unfold atInserted afterDeletion
  split
  · rfl
  · split <;> rfl

/-- What is at a line after a deletion was at the line that goes there. -/
theorem atDeleted_eq_bind (position : Index) (old : Index → Option β) (i : Index) :
    atDeleted position old i = (some (i.afterInsertion position)).bind old := by
  unfold atDeleted afterInsertion
  rw [Option.bind_some]
  by_cases h : i < position
  · rw [if_pos h, if_neg (Fin.not_le.2 h)]
  · rw [if_neg h, if_pos (Fin.not_lt.1 h)]

/-- The lines that are left after a deletion are those from which an insertion leads back. Without
the bound both the last line and the one before it would go to the last line. -/
theorem afterDeletion_eq_some_iff {i j position : Index} (h : i ≠ unbounded ∨ j ≠ unbounded) :
    i.afterDeletion position = some j ↔ j.afterInsertion position = i := by
  have hi := i.isLt
  have hj := j.isLt
  have hprevious := val_previous i
  have hnext := val_next j
  simp only [Ne, Fin.ext_iff, unbounded] at h
  rw [afterDeletion, afterInsertion]
  -- both sides are facts about numbers once it is known on which side of `position` they are
  simp only [Fin.lt_def, Fin.le_def, Fin.ext_iff]
  split_ifs <;> simp only [Option.some.injEq, Fin.ext_iff, false_iff] <;> omega

theorem lt_unbounded_iff {i : Index} : i < unbounded ↔ i ≠ unbounded := by
  have hi := i.isLt
  rw [Fin.lt_def, Ne, Fin.ext_iff]
  simp only [unbounded]
  omega

end Index

/-! ### Addresses -/

namespace Address

variable {a b : Address} {axis : Axis} {i : Index}

/-- A cell is another one in a given line if it is in that line and elsewhere the same. -/
theorem withIndex_eq_iff :
    a.withIndex axis i = b ↔ i = b.along axis ∧ a = b.withIndex axis (a.along axis) := by
  obtain ⟨row, column⟩ := a
  obtain ⟨row', column'⟩ := b
  cases axis with
  | row => simp [withIndex, along]
  | column => simp [withIndex, along, and_comm]

/-- An address comes from another one by a map of indices if it is on the same line across the axis
and its index is what the other's index goes to. -/
theorem map_withIndex_eq_some_iff {target : Option Index} :
    target.map (a.withIndex axis) = some b ↔
      target = some (b.along axis) ∧ a = b.withIndex axis (a.along axis) := by
  cases target with
  | none => simp
  | some i => simp [withIndex_eq_iff]

/-- Cells that differ along one axis only differ so from both sides. -/
theorem eq_withIndex_comm :
    a = b.withIndex axis (a.along axis) ↔ b = a.withIndex axis (b.along axis) := by
  obtain ⟨row, column⟩ := a
  obtain ⟨row', column'⟩ := b
  cases axis with
  | row => simp [withIndex, along, eq_comm]
  | column => simp [withIndex, along, eq_comm]

/-- A cell that is put into a line is in that line. -/
@[simp] theorem along_withIndex (a : Address) (axis : Axis) (i : Index) :
    (a.withIndex axis i).along axis = i := by
  cases axis <;> rfl

/-- A cell that is put back into its line is the same. -/
@[simp] theorem withIndex_withIndex (a : Address) (axis : Axis) (i : Index) :
    (a.withIndex axis i).withIndex axis (a.along axis) = a := by
  cases axis <;> rfl

end Address

/-! ### Sheets -/

namespace Worksheet

variable {sheet : Worksheet} {axis : Axis}

/-- No cell and no size of its own stands at the last index of an axis. -/
def LastFree (sheet : Worksheet) (axis : Axis) : Prop :=
  (∀ a ∈ sheet.cells.positions, a.along axis ≠ .unbounded) ∧
    .unbounded ∉ (sheet.sizes axis).own.positions

instance (sheet : Worksheet) (axis : Axis) : Decidable (sheet.LastFree axis) :=
  inferInstanceAs (Decidable (_ ∧ _))

/-- The cells of a sheet and the sizes along an axis, as they come out of those of another one when
`shift` says what is at each line. Only the lines along that axis move. -/
structure Reindexed (before after : Worksheet) (axis : Axis)
    (shift : {β : Type} → (Index → Option β) → Index → Option β) : Prop where
  /-- Every cell is found by its index along the axis. -/
  value : ∀ a, after.value a = shift (fun i => before.value (a.withIndex axis i)) (a.along axis)
  /-- Every size of its own is found by its index. -/
  own : ∀ i, (after.sizes axis).own.get? i = shift (before.sizes axis).own.get? i
  /-- The other lines have the same size as before. -/
  common : (after.sizes axis).common = (before.sizes axis).common
  /-- The lines along the other axis keep their sizes. -/
  others : ∀ other, other ≠ axis → after.sizes other = before.sizes other

/-- An inserted line moves the sizes along its own axis. -/
theorem sizes_insertLine (sheet : Worksheet) (axis other : Axis) (position : Index) :
    (sheet.insertLine axis position).sizes other =
      if other = axis then (sheet.sizes other).afterInsertion position else sheet.sizes other :=
  sizes_mapSizes sheet axis other _

/-- A deleted line moves the sizes along its own axis. -/
theorem sizes_deleteLine (sheet : Worksheet) (axis other : Axis) (position : Index) :
    (sheet.deleteLine axis position).sizes other =
      if other = axis then (sheet.sizes other).afterDeletion position else sheet.sizes other :=
  sizes_mapSizes sheet axis other _

/-- If cells and sizes are moved by `there`, and indices below the last one are taken back by
`back`, then what is at a line is what was at the line it is taken back to. -/
theorem LastFree.reindexed (h : sheet.LastFree axis) {after : Worksheet}
    (there back : Index → Option Index)
    {shift : {β : Type} → (Index → Option β) → Index → Option β}
    (hback : ∀ i, i ≠ .unbounded → ∀ j, there i = some j ↔ back j = some i)
    (hshift : ∀ {β : Type} (old : Index → Option β) i, shift old i = (back i).bind old)
    (hcells : after.cells =
      sheet.cells.move fun a => (there (a.along axis)).map (a.withIndex axis))
    (hsizes : ∀ other, after.sizes other = if other = axis then
      { sheet.sizes other with own := (sheet.sizes other).own.move there } else
      sheet.sizes other) :
    sheet.Reindexed after axis shift := by
  constructor
  case value =>
    intro a
    -- a cell moves along one axis only, so its address is taken back by its index on it
    have hmoved : after.cells.get? a =
        ((back (a.along axis)).map (a.withIndex axis)).bind sheet.cells.get? := by
      rw [hcells]
      refine Sparse.get?_move_eq_bind
        (fun b => (back (b.along axis)).map (b.withIndex axis)) (fun origin horigin b => ?_) a
      rw [Address.map_withIndex_eq_some_iff, Address.map_withIndex_eq_some_iff,
        Address.eq_withIndex_comm, hback _ (h.1 origin horigin)]
    rw [value, hmoved, Option.bind_map, hshift]
    rfl
  case own =>
    intro i
    rw [hsizes, if_pos rfl, hshift]
    exact Sparse.get?_move_eq_bind back
      (fun origin horigin j => hback origin (fun hlast => h.2 (hlast ▸ horigin)) j) i
  case common => rw [hsizes, if_pos rfl]
  case others => exact fun other hother => by rw [hsizes, if_neg hother]

/-- Where the last line is free, an insertion moves everything and loses nothing. -/
theorem LastFree.reindexed_insertLine (h : sheet.LastFree axis) (position : Index) :
    sheet.Reindexed (sheet.insertLine axis position) axis (Index.atInserted position) :=
  h.reindexed (fun i => some (i.afterInsertion position)) (·.afterDeletion position)
    (fun i hi j => by rw [Index.afterDeletion_eq_some_iff (.inr hi), Option.some.injEq])
    (Index.atInserted_eq_bind position) (cells_insertLine sheet axis position)
    (sizes_insertLine sheet axis · position)

/-- Where the last line is free, a deletion loses the deleted line and nothing else. -/
theorem LastFree.reindexed_deleteLine (h : sheet.LastFree axis) (position : Index) :
    sheet.Reindexed (sheet.deleteLine axis position) axis (Index.atDeleted position) :=
  h.reindexed (·.afterDeletion position) (fun i => some (i.afterInsertion position))
    (fun i hi j => by rw [Index.afterDeletion_eq_some_iff (.inl hi), Option.some.injEq])
    (Index.atDeleted_eq_bind position) (cells_deleteLine sheet axis position)
    (sizes_deleteLine sheet axis · position)

/-- The cells that are left after a deletion are those off the deleted line, each once. -/
theorem LastFree.perm_deleteLine (h : sheet.LastFree axis) (position : Index) :
    (sheet.deleteLine axis position).cells.entries.Perm (sheet.cells.entries.filterMap fun cell =>
      ((cell.1.along axis).afterDeletion position).map fun i =>
        (cell.1.withIndex axis i, cell.2)) := by
  rw [cells_deleteLine]
  refine (Sparse.perm_move fun origin horigin other hother a htarget htarget' => ?_).trans ?_
  · rw [Address.map_withIndex_eq_some_iff] at htarget htarget'
    rw [htarget.2, htarget'.2]
    -- both indices are where an insertion takes the index they share
    rw [← (Index.afterDeletion_eq_some_iff (.inl (h.1 origin horigin))).1 htarget.1,
      ← (Index.afterDeletion_eq_some_iff (.inl (h.1 other hother))).1 htarget'.1]
  · simp only [Option.map_map, Function.comp_def]
    exact .refl _

/-- Deleting a line that was just inserted brings every cell back. -/
theorem LastFree.cells_deleteLine_insertLine (h : sheet.LastFree axis) (position : Index) :
    ((sheet.insertLine axis position).deleteLine axis position).cells = sheet.cells := by
  rw [cells_deleteLine, cells_insertLine]
  refine Sparse.move_move fun origin horigin => ⟨_, rfl, ?_⟩
  rw [Address.along_withIndex, Index.afterDeletion_afterInsertion
    (Index.lt_unbounded_iff.2 (h.1 origin horigin)), Option.map_some, Address.withIndex_withIndex]

/-- Deleting a line that was just inserted brings every size back. -/
theorem LastFree.sizes_deleteLine_insertLine (h : sheet.LastFree axis) (position : Index)
    (along : Axis) :
    ((sheet.insertLine axis position).deleteLine axis position).sizes along =
      sheet.sizes along := by
  rw [sizes_deleteLine, sizes_insertLine]
  split
  · rename_i heq
    subst heq
    have hown : (((sheet.sizes along).own.move fun i => some (i.afterInsertion position)).move
        fun i => i.afterDeletion position) = (sheet.sizes along).own :=
      Sparse.move_move fun origin horigin => ⟨_, rfl, Index.afterDeletion_afterInsertion
        (Index.lt_unbounded_iff.2 fun hlast => h.2 (hlast ▸ horigin))⟩
    rw [Sizes.afterInsertion, Sizes.afterDeletion, hown]
  · rfl

/-- Inserting and deleting a line move cells and sizes by one map of indices. After an insertion the
lines from `i` on are those before them, with an empty one at `i`; after a deletion the lines from
`i` on are those behind them, and the cells off the deleted line are all there, each once. Deleting
a line that was just inserted gives the same cells and the same sizes again. -/
theorem insertLine_deleteLine_reindex (sheet : Worksheet) (axis : Axis)
    (h : sheet.LastFree axis) (i : Index) :
    sheet.Reindexed (sheet.insertLine axis i) axis (Index.atInserted i) ∧
      sheet.Reindexed (sheet.deleteLine axis i) axis (Index.atDeleted i) ∧
      (sheet.deleteLine axis i).cells.entries.Perm (sheet.cells.entries.filterMap fun cell =>
        ((cell.1.along axis).afterDeletion i).map fun moved =>
          (cell.1.withIndex axis moved, cell.2)) ∧
      ((sheet.insertLine axis i).deleteLine axis i).cells = sheet.cells ∧
      ∀ along, ((sheet.insertLine axis i).deleteLine axis i).sizes along = sheet.sizes along :=
  ⟨h.reindexed_insertLine i, h.reindexed_deleteLine i, h.perm_deleteLine i,
    h.cells_deleteLine_insertLine i, h.sizes_deleteLine_insertLine i⟩

/-- A sheet of two rows, the second of which is tall. -/
def tallSecondRow : Worksheet :=
  (((empty "Sheet 1").set ⟨0, 0⟩ (.text "a")).set ⟨1, 2⟩ (.text "b")).mapSizes .row fun sizes =>
    { sizes with own := sizes.own.insert 1 48.0 }

/-- A line inserted in front of the tall row, and that row deleted. -/
theorem insertLine_deleteLine_tallSecondRow :
    tallSecondRow.LastFree .row ∧
      (tallSecondRow.insertLine .row 1).value ⟨2, 2⟩ = some (.text "b") ∧
      (tallSecondRow.insertLine .row 1).value ⟨1, 2⟩ = none ∧
      ((tallSecondRow.insertLine .row 1).sizes .row).own.get? 2 = some 48.0 ∧
      (tallSecondRow.deleteLine .row 1).value ⟨0, 0⟩ = some (.text "a") ∧
      ((tallSecondRow.deleteLine .row 1).sizes .row).own.get? 1 = none ∧
      ((tallSecondRow.insertLine .row 1).deleteLine .row 1).cells = tallSecondRow.cells := by
  have hfree : tallSecondRow.LastFree .row := by decide
  obtain ⟨hinserted, hdeleted, -, hcells, -⟩ :=
    insertLine_deleteLine_reindex tallSecondRow .row hfree 1
  refine ⟨hfree, (hinserted.value _).trans ?_, (hinserted.value _).trans ?_,
    (hinserted.own _).trans ?_, (hdeleted.value _).trans ?_, (hdeleted.own _).trans ?_, hcells⟩
  all_goals decide

end Worksheet

end EnsembleDesk

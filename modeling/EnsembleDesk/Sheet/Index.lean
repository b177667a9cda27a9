/-!
# Indices

Rows and columns are numbered from zero by `Index`, a number of 32 bits. Arithmetic on indices does
not wrap: it stops at zero and at the last index, `Index.unbounded`, which stands for "up to the
end" in the selection of a whole row or column.

`Index.afterInsertion` and `Index.afterDeletion` say where a line goes when a line is inserted or
deleted; cells and sizes are moved by them alike.
-/

namespace EnsembleDesk

/-- The number of a row or a column. -/
abbrev Index := Fin 4294967296

/-- There is an index, so that numerals stand for indices. -/
instance Index.neZero : @NeZero Nat Zero.ofOfNat0 4294967296 := ⟨by decide⟩

namespace Index

/-- The first index. -/
def first : Index := ⟨0, by decide⟩

/-- The last index. -/
def unbounded : Index := ⟨4294967295, by decide⟩

/-- The index of a number, or the last index if the number is too large. -/
def capped (n : Nat) : Index := ⟨min n 4294967295, by omega⟩

/-- The index `n` lines further on. -/
def plus (i : Index) (n : Nat) : Index := capped (i.val + n)

/-- The index of the next line. -/
def next (i : Index) : Index := i.plus 1

/-- The index of the line before. -/
def previous (i : Index) : Index := capped (i.val - 1)

/-- The index a signed distance away; it stays within the lines that have cells. -/
def offset (i : Index) (delta : Int) : Index :=
  capped (min (max ((i.val : Int) + delta) 0) 4294967294).toNat

/-- The earlier of two lines. -/
def earlier (i j : Index) : Index := if i ≤ j then i else j

/-- The later of two lines. -/
def later (i j : Index) : Index := if i ≤ j then j else i

/-- Where a line goes when a line is inserted in front of `position`. -/
def afterInsertion (i position : Index) : Index :=
  if position ≤ i then i.next else i

/-- Where a line goes when the line at `position` is deleted; that line itself goes nowhere. -/
def afterDeletion (i position : Index) : Option Index :=
  if i < position then some i else if i = position then none else some i.previous

theorem val_capped (n : Nat) : (capped n).val = min n 4294967295 := rfl

theorem val_plus (i : Index) (n : Nat) : (i.plus n).val = min (i.val + n) 4294967295 := rfl

theorem val_next (i : Index) : i.next.val = min (i.val + 1) 4294967295 := rfl

theorem val_unbounded : unbounded.val = 4294967295 := rfl

theorem le_unbounded (i : Index) : i ≤ unbounded := Nat.le_of_lt_succ i.isLt

/-- In front of the last line the next one is one further on. -/
theorem val_next_of_lt {i : Index} (h : i < unbounded) : i.next.val = i.val + 1 :=
  Nat.min_eq_left h

/-- Counting on stops at no line up to the last one. -/
theorem val_plus_of_le {i : Index} {n : Nat} (h : i.val + n ≤ unbounded.val) :
    (i.plus n).val = i.val + n :=
  Nat.min_eq_left h

theorem plus_zero (i : Index) : i.plus 0 = i := by
  have := i.isLt
  rw [Fin.ext_iff, val_plus]
  omega

/-- To count on by one more is to begin one line later. -/
theorem plus_succ (i : Index) (n : Nat) : i.plus (n + 1) = i.next.plus n := by
  rw [Fin.ext_iff, val_plus, val_plus, val_next]
  omega

theorem val_previous (i : Index) : i.previous.val = i.val - 1 := by
  have := i.isLt
  simp only [previous, val_capped]
  omega

theorem val_earlier (i j : Index) : (earlier i j).val = min i.val j.val := by
  unfold earlier
  split
  · rename_i h
    exact (Nat.min_eq_left h).symm
  · rename_i h
    exact (Nat.min_eq_right (Nat.le_of_lt (Nat.lt_of_not_le h))).symm

theorem val_later (i j : Index) : (later i j).val = max i.val j.val := by
  unfold later
  split
  · rename_i h
    exact (Nat.max_eq_right h).symm
  · rename_i h
    exact (Nat.max_eq_left (Nat.le_of_lt (Nat.lt_of_not_le h))).symm

theorem le_next (i : Index) : i ≤ i.next := by
  have := i.isLt
  rw [Fin.le_def, val_next]
  omega

/-- Going back one line keeps the order. -/
theorem previous_le_previous {i j : Index} (h : i ≤ j) : i.previous ≤ j.previous := by
  rw [Fin.le_def] at h ⊢
  rw [val_previous, val_previous]
  omega

/-- Deleting a line that was just inserted brings every other line back. -/
theorem afterDeletion_afterInsertion {i position : Index} (h : i < unbounded) :
    (i.afterInsertion position).afterDeletion position = some i := by
  have hi : i.val < 4294967295 := h
  have hn := val_next i
  unfold afterInsertion
  split
  · rename_i hle
    rw [Fin.le_def] at hle
    have h₁ : ¬ i.next < position := by rw [Fin.lt_def]; omega
    have h₂ : i.next ≠ position := by rw [Ne, Fin.ext_iff]; omega
    rw [afterDeletion, if_neg h₁, if_neg h₂, Option.some.injEq, Fin.ext_iff, val_previous]
    omega
  · rename_i hlt
    rw [afterDeletion, if_pos (by rw [Fin.lt_def]; rw [Fin.le_def] at hlt; omega)]

end Index

/-- The two directions in which cells are counted. -/
inductive Axis where
  /-- Down the rows. -/
  | row
  /-- Along the columns. -/
  | column
deriving DecidableEq

end EnsembleDesk

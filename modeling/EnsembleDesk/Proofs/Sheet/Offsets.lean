import EnsembleDesk.Proofs.Number.OrderedField
import EnsembleDesk.Proofs.Sheet.Tables
import EnsembleDesk.Sheet.Sizes
import Mathlib.Order.Fin.Basic
import Mathlib.Tactic.Linarith
import Mathlib.Tactic.Ring
/-!
# Offsets of lines

Over exact numbers, a line ends where the next one begins (`Sizes.offsetOf_next`), although an
offset is computed from the common size and the exceptions from it alone. Where every line has a
positive size, offsets grow strictly from line to line (`Sizes.Positive.strictMono_offsetOf`), so a
place lies in one line at most (`Sizes.LiesIn.unique`); and lines of the common size in a row are as
long as their number says (`Sizes.offsetOf_plus`).
-/

namespace EnsembleDesk

namespace Sparse

variable {κ α : Type} [Position κ]

/-- A table has no value in front of its first entry. -/
theorem find_eq_none_of_forall_lt {position : κ} {entries : List (κ × α)}
    (h : ∀ entry ∈ entries, Position.number position < Position.number entry.1) :
    find position entries = none := by
  induction entries with
  | nil => rfl
  | cons entry entries ih =>
    have hlt := h entry List.mem_cons_self
    rw [find, if_neg (Nat.ne_of_gt hlt)]
    exact ih fun other hmem => h other (List.mem_cons_of_mem _ hmem)

end Sparse

namespace Sizes

open Scalar

variable {sizes : Sizes ℚ} {place : ℚ}

/-! ### Where lines begin -/

/-- The entries of the lines in front of a line. -/
def entriesBefore (i : Index) (entries : List (Index × ℚ)) : List (Index × ℚ) :=
  entries.takeWhile fun entry => entry.1 < i

/-- The entry of a line in front is one of those that count. -/
theorem entriesBefore_cons_of_lt {i : Index} {entry : Index × ℚ} (h : entry.1 < i)
    (entries : List (Index × ℚ)) :
    entriesBefore i (entry :: entries) = entry :: entriesBefore i entries :=
  List.takeWhile_cons_of_pos (decide_eq_true h)

/-- From an entry on that is not in front of the line, there are no more. -/
theorem entriesBefore_cons_of_le {i : Index} {entry : Index × ℚ} (h : i ≤ entry.1)
    (entries : List (Index × ℚ)) : entriesBefore i (entry :: entries) = [] :=
  List.takeWhile_cons_of_neg fun hlt => not_lt_of_ge h (of_decide_eq_true hlt)

/-- The offset of a line: the common size for each line in front of it, and what the sizes of their
own differ from it. -/
theorem offsetOf_eq (sizes : Sizes ℚ) (i : Index) :
    sizes.offsetOf i = i.val * sizes.common +
      ((entriesBefore i sizes.own.entries).map fun entry => entry.2 - sizes.common).sum := by
  rw [offsetOf, sum_field]
  rfl

/-- The first line begins at zero. -/
theorem offsetOf_first (sizes : Sizes ℚ) : sizes.offsetOf .first = 0 := by
  have hnone : entriesBefore .first sizes.own.entries = [] := by
    cases sizes.own.entries with
    | nil => rfl
    | cons entry entries => exact entriesBefore_cons_of_le (Nat.zero_le _) entries
  rw [offsetOf_eq, hnone]
  simp [Index.first]

/-- Of ordered entries, one more line takes in at most one more: its own. -/
theorem sum_entriesBefore_next {entries : List (Index × ℚ)}
    (hordered : entries.Pairwise fun a b => Position.number a.1 < Position.number b.1) {i : Index}
    (hi : i < .unbounded) (common : ℚ) :
    ((entriesBefore i.next entries).map fun entry => entry.2 - common).sum =
      ((entriesBefore i entries).map fun entry => entry.2 - common).sum +
        ((Sparse.find i entries).getD common - common) := by
  have hnext := Index.val_next_of_lt hi
  induction entries with
  | nil => simp [entriesBefore, Sparse.find]
  | cons entry entries ih =>
    obtain ⟨hhead, hrest⟩ := List.pairwise_cons.1 hordered
    rcases lt_trichotomy entry.1.val i.val with hlt | heq | hgt
    · -- an entry in front of the line counts for both
      have hfind : Sparse.find i (entry :: entries) = Sparse.find i entries :=
        if_neg (Nat.ne_of_lt hlt)
      have hlt' : entry.1 < i.next := Fin.lt_def.2 (by omega)
      rw [entriesBefore_cons_of_lt hlt', entriesBefore_cons_of_lt hlt, List.map_cons, List.map_cons,
        List.sum_cons, List.sum_cons, ih hrest, hfind, add_assoc]
    · -- the entry is that of the line, and all others come after it
      have hfind : Sparse.find i (entry :: entries) = some entry.2 := if_pos heq
      have hlt' : entry.1 < i.next := Fin.lt_def.2 (by omega)
      have hbehind : entriesBefore i.next entries = [] := by
        cases entries with
        | nil => rfl
        | cons other entries =>
          have hother : entry.1.val < other.1.val := hhead other List.mem_cons_self
          exact entriesBefore_cons_of_le (Fin.le_def.2 (by omega)) entries
      rw [entriesBefore_cons_of_lt hlt', entriesBefore_cons_of_le (Nat.le_of_eq heq.symm), hbehind,
        hfind]
      simp
    · -- all entries come after the line
      have hfind : Sparse.find i (entry :: entries) = none := by
        refine Sparse.find_eq_none_of_forall_lt fun other hmem => ?_
        rcases List.mem_cons.1 hmem with rfl | hmem
        · exact hgt
        · exact Nat.lt_trans hgt (hhead other hmem)
      have hle' : i.next ≤ entry.1 := Fin.le_def.2 (by omega)
      rw [entriesBefore_cons_of_le hle', entriesBefore_cons_of_le (Nat.le_of_lt hgt), hfind]
      simp

/-- A line ends where the next one begins. -/
theorem offsetOf_next (sizes : Sizes ℚ) {i : Index} (hi : i < .unbounded) :
    sizes.offsetOf i.next = sizes.offsetOf i + sizes.size i := by
  have hsize : (Sparse.find i sizes.own.entries).getD sizes.common = sizes.size i := rfl
  rw [offsetOf_eq, offsetOf_eq, sum_entriesBefore_next sizes.own.ordered hi, hsize,
    Index.val_next_of_lt hi]
  push_cast
  ring

/-- Lines without a size of their own are as long as the common size and their number say. -/
theorem offsetOf_plus (sizes : Sizes ℚ) (i : Index) (n : Nat)
    (hn : i.val + n ≤ Index.unbounded.val)
    (hcommon : ∀ k, i ≤ k → k.val < i.val + n → sizes.own.get? k = none) :
    sizes.offsetOf (i.plus n) = sizes.offsetOf i + n * sizes.common := by
  induction n with
  | zero => simp [Index.plus_zero]
  | succ n ih =>
    have hbefore := ih (by omega) fun k hle hlt => hcommon k hle (by omega)
    have hval : (i.plus n).val = i.val + n := Index.val_plus_of_le (by omega)
    have hnext : i.plus (n + 1) = (i.plus n).next := by
      rw [Fin.ext_iff, Index.val_next, Index.val_plus_of_le hn, hval]
      exact (Nat.min_eq_left hn).symm
    have hsize : sizes.size (i.plus n) = sizes.common := by
      rw [size, hcommon (i.plus n) (Fin.le_def.2 (by omega)) (by omega)]
      rfl
    rw [hnext, offsetOf_next sizes (Fin.lt_def.2 (by omega)), hbefore, hsize]
    push_cast
    ring

/-! ### Lines of a positive size -/

/-- Every line has a positive size. -/
structure Positive (sizes : Sizes ℚ) : Prop where
  /-- The common size is positive. -/
  common : 0 < sizes.common
  /-- The sizes of single lines are positive. -/
  own : ∀ entry ∈ sizes.own.entries, 0 < entry.2

namespace Positive

/-- With positive sizes, a line has a positive size. -/
theorem size (h : sizes.Positive) (i : Index) : 0 < sizes.size i := by
  rw [Sizes.size]
  cases hown : sizes.own.get? i with
  | none => exact h.common
  | some size => exact h.own (i, size) (Sparse.get?_eq_some_iff.1 hown)

/-- Every line begins behind those in front of it. -/
theorem strictMono_offsetOf (h : sizes.Positive) : StrictMono sizes.offsetOf := by
  refine Fin.strictMono_iff_lt_succ.2 fun line => ?_
  let i : Index := line.castSucc
  have hlt : i < Index.unbounded := line.isLt
  have hnext : line.succ = i.next := by
    rw [Fin.ext_iff, Index.val_next_of_lt hlt]
    rfl
  have hsize := h.size i
  rw [hnext, offsetOf_next sizes hlt]
  linarith

end Positive

/-- A place lies in a line, some way behind its beginning. -/
structure LiesIn (sizes : Sizes ℚ) (place : ℚ) (i : Index) (into : ℚ) : Prop where
  /-- The way from the beginning of the line leads to the place. -/
  place_eq : sizes.offsetOf i + into = place
  /-- The place is not in front of the line. -/
  nonneg : 0 ≤ into
  /-- The place is in front of the end of the line. -/
  lt_size : into < sizes.size i

namespace LiesIn

variable {i j : Index} {into other : ℚ}

/-- Lines in front of the one that a place lies in end in front of the place. -/
theorem not_lt (hpositive : sizes.Positive) (h : sizes.LiesIn place i into)
    (h' : sizes.LiesIn place j other) : ¬ i < j := by
  intro hlt
  have hi : i < Index.unbounded := lt_of_lt_of_le hlt (Index.le_unbounded j)
  have hle : i.next ≤ j := by
    rw [Fin.le_def, Index.val_next]
    exact Nat.le_trans (Nat.min_le_left _ _) hlt
  have hends := hpositive.strictMono_offsetOf.monotone hle
  rw [offsetOf_next sizes hi] at hends
  have := h.place_eq
  have := h.lt_size
  have := h'.place_eq
  have := h'.nonneg
  linarith

/-- A place lies in one line only. -/
theorem unique (hpositive : sizes.Positive) (h : sizes.LiesIn place i into)
    (h' : sizes.LiesIn place j other) : i = j ∧ into = other := by
  obtain rfl : i = j := le_antisymm (Fin.not_lt.1 (h'.not_lt hpositive h))
    (Fin.not_lt.1 (h.not_lt hpositive h'))
  exact ⟨rfl, add_left_cancel (h.place_eq.trans h'.place_eq.symm)⟩

/-- The beginning of a line lies in it. -/
theorem offsetOf (hpositive : sizes.Positive) (i : Index) :
    sizes.LiesIn (sizes.offsetOf i) i 0 :=
  ⟨add_zero _, le_refl 0, hpositive.size i⟩

end LiesIn

end Sizes

end EnsembleDesk

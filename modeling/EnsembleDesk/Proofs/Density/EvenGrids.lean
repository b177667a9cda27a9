import Mathlib.Algebra.BigOperators.Group.Finset.Basic
import Mathlib.Tactic.FieldSimp
import Mathlib.Tactic.Linarith
import Mathlib.Tactic.Ring
import EnsembleDesk.Density.Masses
import EnsembleDesk.Proofs.Number.OrderedField
/-!
# Even grids

A point of an even grid is told by its number (`gridPoint`), and two points are as far apart as
their numbers times the step of the grid (`gridPoint_sub`). `EvenlySpaced` says what an even grid
is without its formula, and `evenlySpaced_evenGrid` that the points of `evenGrid` are one.

The discrete families put probabilities on such a grid, and their points are told by their numbers,
too. `Masses.partialSum` adds up the probabilities of the first points.
-/

namespace EnsembleDesk

variable {K : Type} [Field K]

/-- The distance between neighbouring points of an even grid. -/
def gridStep (n : ℕ) (lo hi : K) : K := (hi - lo) / ((n - 1 : ℕ) : K)

/-- The point number `k` of an even grid. -/
def gridPoint (n : ℕ) (lo hi : K) (k : ℕ) : K := lo + (k : K) * gridStep n lo hi

/-- The points that divide an interval into equal parts, from its lower to its upper end. -/
structure EvenlySpaced [LT K] (n : ℕ) (lo hi : K) (points : List K) : Prop where
  /-- The number of points. -/
  length_eq : points.length = n
  /-- The lower end is the first point. -/
  head_eq : points.head? = some lo
  /-- The upper end is the last point. -/
  last_eq : points.getLast? = some hi
  /-- The points are in strictly increasing order. -/
  increasing : points.Pairwise (· < ·)
  /-- Neighbouring points are equally far apart. -/
  distance_eq : ∀ k (h : k + 1 < points.length),
    points[k + 1] - points[k] = (hi - lo) / ((n : K) - 1)

section Points

variable {n : ℕ} {lo hi : K}

/-- The first point is the lower end. -/
@[simp]
theorem gridPoint_zero : gridPoint n lo hi 0 = lo := by
  simp [gridPoint]

/-- Two points are as far apart as their numbers, counted in steps. -/
theorem gridPoint_sub (j k : ℕ) :
    gridPoint n lo hi j - gridPoint n lo hi k = ((j : K) - (k : K)) * gridStep n lo hi := by
  unfold gridPoint
  ring

variable [LinearOrder K] [FloorSemiring K]

/-- The points of a grid are told by their numbers. -/
theorem evenGrid_eq_map (n : ℕ) (lo hi : K) :
    evenGrid n lo hi = (List.range n).map (gridPoint n lo hi) := rfl

variable [IsStrictOrderedRing K]

/-- A grid of two points or more has a step. -/
theorem cast_pred_pos (hn : 2 ≤ n) : (0 : K) < ((n - 1 : ℕ) : K) :=
  Nat.cast_pos.2 (by omega)

/-- The points of a grid are apart. -/
theorem gridStep_pos (hn : 2 ≤ n) (h : lo < hi) : 0 < gridStep n lo hi :=
  div_pos (sub_pos.2 h) (cast_pred_pos hn)

/-- The last point is the upper end. -/
theorem gridPoint_last (hn : 2 ≤ n) : gridPoint n lo hi (n - 1) = hi := by
  have hpos := (cast_pred_pos (K := K) hn).ne'
  unfold gridPoint gridStep
  rw [mul_div_cancel₀ _ hpos]
  ring

/-- The points of a grid are in increasing order. -/
theorem strictMono_gridPoint (hn : 2 ≤ n) (h : lo < hi) : StrictMono (gridPoint n lo hi) := by
  refine strictMono_nat_of_lt_succ fun k => ?_
  have hstep := gridStep_pos hn h
  have hsub : gridPoint n lo hi (k + 1) - gridPoint n lo hi k = _ := gridPoint_sub (k + 1) k
  push_cast at hsub
  linarith

/-- The points of a grid lie between its ends. -/
theorem gridPoint_mem_Icc (hn : 2 ≤ n) (h : lo < hi) {k : ℕ} (hk : k < n) :
    gridPoint n lo hi k ∈ Set.Icc lo hi := by
  have hmono := (strictMono_gridPoint hn h).monotone
  constructor
  · simpa using hmono (Nat.zero_le k)
  · simpa [gridPoint_last hn] using hmono (show k ≤ n - 1 by omega)

/-- What a grid lists lies between its ends. -/
theorem mem_Icc_of_mem_evenGrid (hn : 2 ≤ n) (h : lo < hi) {x : K} (hx : x ∈ evenGrid n lo hi) :
    x ∈ Set.Icc lo hi := by
  rw [evenGrid_eq_map, List.mem_map] at hx
  obtain ⟨k, hk, rfl⟩ := hx
  exact gridPoint_mem_Icc hn h (List.mem_range.1 hk)

/-- The points of an even grid are evenly spaced. -/
theorem evenlySpaced_evenGrid (hn : 2 ≤ n) (h : lo < hi) :
    EvenlySpaced n lo hi (evenGrid n lo hi) where
  length_eq := by simp [evenGrid]
  head_eq := by
    obtain ⟨m, rfl⟩ : ∃ m, n = m + 1 := ⟨n - 1, by omega⟩
    simp [evenGrid_eq_map, List.range_succ_eq_map]
  last_eq := by
    have hne : n ≠ 0 := by omega
    simp [evenGrid_eq_map, List.getLast?_range, hne, gridPoint_last hn]
  increasing := by
    rw [evenGrid_eq_map, List.pairwise_map]
    exact List.pairwise_lt_range.imp fun hlt => strictMono_gridPoint hn h hlt
  distance_eq k hk := by
    simp only [evenGrid_eq_map, List.getElem_map, List.getElem_range, gridPoint_sub, gridStep,
      Nat.cast_pred (show 0 < n by omega)]
    push_cast
    ring

end Points

/-! ### The points of the discrete families -/

section Families

variable [LinearOrder K] [FloorSemiring K]

/-- The points of a uniform grid have the same probability. -/
theorem points_uniform (n : ℕ) (lo hi : K) :
    (Masses.uniform n lo hi).points =
      (List.range n).map fun k => (gridPoint n lo hi k, 1 / (n : K)) := by
  rw [Masses.uniform, evenGrid_eq_map, List.map_map, Scalar.one_field]
  rfl

/-- The points of a skewed grid have the probabilities of their bins. -/
theorem points_masses (Φ quantile : K → K) (transform : SkewTransform K) (n : ℕ) (lo hi : K) :
    (transform.masses Φ quantile n lo hi).points =
      (List.range n).map fun k => (gridPoint n lo hi k, transform.binMass Φ quantile n k) := by
  rw [SkewTransform.masses, evenGrid_eq_map]
  refine List.ext_getElem (by simp) fun k hk hk' => ?_
  simp

/-- A uniform distribution on a grid is concentrated on the grid. -/
theorem support_uniform (n : ℕ) (lo hi : K) :
    (Masses.uniform n lo hi).support = evenGrid n lo hi := by
  rw [Masses.support, points_uniform, evenGrid_eq_map, List.map_map]
  rfl

/-- A skewed distribution on a grid is concentrated on the grid. -/
theorem support_masses (Φ quantile : K → K) (transform : SkewTransform K) (n : ℕ) (lo hi : K) :
    (transform.masses Φ quantile n lo hi).support = evenGrid n lo hi := by
  rw [Masses.support, points_masses, evenGrid_eq_map, List.map_map]
  rfl

end Families

/-! ### Adding up probabilities -/

namespace Masses

/-- The probabilities of the first `m` points, added up. -/
def partialSum (masses : Masses K) (m : ℕ) : K := ((masses.points.take m).map Prod.snd).sum

variable {masses : Masses K}

/-- One point more adds its probability. -/
theorem partialSum_succ {k : ℕ} (h : k < masses.points.length) :
    masses.partialSum (k + 1) = masses.partialSum k + masses.points[k].2 := by
  unfold partialSum
  rw [List.map_take, List.map_take, List.sum_take_succ _ _ (by simpa using h), List.getElem_map]

/-- All points together have the sum of all probabilities. -/
theorem partialSum_of_length_le {m : ℕ} (h : masses.points.length ≤ m) :
    masses.partialSum m = (masses.points.map Prod.snd).sum := by
  rw [partialSum, List.take_of_length_le h]

/-- Points that are told by their numbers. -/
theorem partialSum_eq_sum {value probability : ℕ → K} {n : ℕ}
    (h : masses.points = (List.range n).map fun k => (value k, probability k)) (m : ℕ) :
    masses.partialSum m = ∑ k ∈ Finset.range (min m n), probability k := by
  rw [partialSum, h, ← List.map_take, List.take_range, List.map_map]
  rfl

end Masses

end EnsembleDesk

import Mathlib.Algebra.BigOperators.Ring.Finset
import Mathlib.Algebra.Order.BigOperators.Group.List
import EnsembleDesk.Proofs.Density.ExactFamilies
import EnsembleDesk.Proofs.Density.RealNormal
/-!
# Statistics on a grid

The mean and the variance of the uniform distribution on a grid have closed forms. They are the sums
over the points, for every number of points: the numbers of the points and their squares have sums
of their own (`sum_range_cast`, `sum_range_cast_sq`), and a point deviates from the mean as its
number deviates from the middle one (`gridPoint_sub_middle`).

A transformed normal in bins is a distribution on an even grid, whatever monotone functions stand in
the place of the normal's distribution function and quantile function. Of the two statistics that
are read off the probabilities alone, the mode is found by a scan that keeps the best point so far
(`Masses.foldl_moreProbable`), and the mean is an average of the points
(`Masses.IsProbability.mean_mem_Icc`).

## Main results

* `Distribution.uniform_moments_are_sums`: the closed forms are the averages over the points, and
  they are what the probabilities of the points give.
* `Distribution.skewed_bins_distribute`: the points of the grid get non-negative probabilities that
  add up to one, the mode is a most probable point, and the mean lies between the ends of the grid.
-/

namespace EnsembleDesk

variable {K : Type} [Field K] [LinearOrder K] [FloorSemiring K]

/-! ### Sums of numbers and of squares -/

/-- The sum of the first whole numbers, in a field. -/
theorem sum_range_cast (n : ℕ) :
    ∑ k ∈ Finset.range n, (k : K) = (n : K) * ((n : K) - 1) / 2 := by
  induction n with
  | zero => simp
  | succ n ih =>
    rw [Finset.sum_range_succ, ih]
    push_cast
    ring

/-- The sum of the first squares, in a field. -/
theorem sum_range_cast_sq (n : ℕ) :
    ∑ k ∈ Finset.range n, (k : K) ^ 2 = (n : K) * ((n : K) - 1) * (2 * (n : K) - 1) / 6 := by
  induction n with
  | zero => simp
  | succ n ih =>
    rw [Finset.sum_range_succ, ih]
    push_cast
    ring

/-- The squared deviations of the numbers below `n` from their middle, added up. -/
theorem sum_range_deviation_sq (n : ℕ) :
    ∑ k ∈ Finset.range n, ((k : K) - ((n : K) - 1) / 2) ^ 2 =
      (n : K) * ((n : K) ^ 2 - 1) / 12 := by
  have hexpand (k : ℕ) : ((k : K) - ((n : K) - 1) / 2) ^ 2 =
      (k : K) ^ 2 - ((n : K) - 1) * (k : K) + ((n : K) - 1) ^ 2 / 4 := by
    ring
  simp only [hexpand, Finset.sum_add_distrib, Finset.sum_sub_distrib, ← Finset.mul_sum,
    Finset.sum_const, Finset.card_range, nsmul_eq_mul, sum_range_cast, sum_range_cast_sq]
  ring

/-! ### Sums over the points -/

section Points

variable [IsStrictOrderedRing K] {n : ℕ} {lo hi : K}

/-- A point deviates from the middle of the grid as its number deviates from the middle one. -/
theorem gridPoint_sub_middle (hn : 2 ≤ n) (k : ℕ) :
    gridPoint n lo hi k - (lo + hi) / 2 =
      ((k : K) - ((n : K) - 1) / 2) * gridStep n lo hi := by
  have hlast : lo + ((n - 1 : ℕ) : K) * gridStep n lo hi = hi := gridPoint_last hn
  rw [Nat.cast_pred (by omega)] at hlast
  unfold gridPoint
  linear_combination hlast / 2

/-- The average of the points is the middle of the grid. -/
theorem sum_evenGrid_div (hn : 2 ≤ n) :
    ((evenGrid n lo hi).map fun value => value / (n : K)).sum = (lo + hi) / 2 := by
  have hpos : (n : K) ≠ 0 := Nat.cast_ne_zero.2 (by omega)
  have hpoint (k : ℕ) : gridPoint n lo hi k =
      (lo + hi) / 2 + ((k : K) - ((n : K) - 1) / 2) * gridStep n lo hi := by
    rw [← gridPoint_sub_middle hn]
    ring
  -- the deviations of the numbers from the middle one cancel
  have hcancel : ∑ k ∈ Finset.range n, ((k : K) - ((n : K) - 1) / 2) = 0 := by
    rw [Finset.sum_sub_distrib, sum_range_cast, Finset.sum_const, Finset.card_range, nsmul_eq_mul]
    ring
  rw [evenGrid_eq_map, List.map_map]
  show ∑ k ∈ Finset.range n, gridPoint n lo hi k / (n : K) = _
  rw [← Finset.sum_div, div_eq_iff hpos]
  simp only [hpoint, Finset.sum_add_distrib, ← Finset.sum_mul, hcancel, Finset.sum_const,
    Finset.card_range, nsmul_eq_mul]
  ring

/-- The average squared deviation of the points from the middle of the grid. -/
theorem sum_evenGrid_deviation_sq_div (hn : 2 ≤ n) :
    ((evenGrid n lo hi).map fun value => (value - (lo + hi) / 2) ^ 2 / (n : K)).sum =
      (hi - lo) ^ 2 * ((n : K) + 1) / (12 * ((n : K) - 1)) := by
  have hpos : (n : K) ≠ 0 := Nat.cast_ne_zero.2 (by omega)
  have hpred : (n : K) - 1 ≠ 0 := by
    rw [← Nat.cast_pred (show 0 < n by omega)]
    exact (cast_pred_pos hn).ne'
  have hstep : gridStep n lo hi = (hi - lo) / ((n : K) - 1) := by
    rw [gridStep, Nat.cast_pred (by omega)]
  rw [evenGrid_eq_map, List.map_map]
  show ∑ k ∈ Finset.range n, (gridPoint n lo hi k - (lo + hi) / 2) ^ 2 / (n : K) = _
  rw [← Finset.sum_div]
  simp only [gridPoint_sub_middle hn, mul_pow, ← Finset.sum_mul, sum_range_deviation_sq, hstep]
  field_simp
  ring

end Points

namespace Masses

variable (n : ℕ) (lo hi : K)

/-- An equal probability divides by the number of points. -/
theorem mean_uniform :
    (uniform n lo hi).mean = ((evenGrid n lo hi).map fun value => value / (n : K)).sum := by
  rw [mean, Scalar.sum_field, points_uniform, evenGrid_eq_map, List.map_map, List.map_map]
  simp only [Function.comp_def, mul_one_div]

/-- The variance of equal masses is the mean of the squared distances of their points. -/
theorem variance_uniform :
    (uniform n lo hi).variance =
      ((evenGrid n lo hi).map fun value =>
        (value - (uniform n lo hi).mean) ^ 2 / (n : K)).sum := by
  rw [variance, Scalar.sum_field, points_uniform, evenGrid_eq_map, List.map_map, List.map_map]
  simp only [Function.comp_def, Scalar.square_field, one_div_mul_eq_div]

end Masses

namespace Distribution

variable [ElementaryFunctions K] {n : ℕ} {lo hi : K}

/-! ### The closed forms -/

/-- The mean that the uniform family gives is the middle of its range. -/
theorem mean_discreteUniform (masses : Masses K) :
    (discreteUniform n lo hi masses).mean = (lo + hi) / 2 := by
  unfold mean
  ring

/-- The variance that the uniform family gives is in closed form. -/
theorem variance_discreteUniform (masses : Masses K) :
    (discreteUniform n lo hi masses).variance =
      (hi - lo) ^ 2 * ((n : K) + 1) / (12 * ((n : K) - 1)) := by
  unfold variance
  simp only [Scalar.square_field, Scalar.one_field]
  norm_num

variable [IsStrictOrderedRing K]

/-- The closed forms of the mean and the variance are the averages over the points of the grid,
which the probabilities of the points give, too. -/
theorem uniform_moments_are_sums (hn : 2 ≤ n) (h : lo < hi) :
    ∃ (d : Distribution K) (masses : Masses K),
      discreteUniform? (n : K) lo hi = .ok d ∧ d.masses? = some masses ∧
      EvenlySpaced n lo hi masses.support ∧
      d.mean = (masses.support.map fun value => value / (n : K)).sum ∧
      d.mean = masses.mean ∧
      d.variance = (masses.support.map fun value => (value - d.mean) ^ 2 / (n : K)).sum ∧
      d.variance = masses.variance := by
  refine ⟨_, Masses.uniform n lo hi, discreteUniform?_eq_ok_iff.2 ⟨n, hn, rfl, h, rfl⟩, rfl, ?_⟩
  rw [support_uniform, mean_discreteUniform, variance_discreteUniform, Masses.variance_uniform,
    Masses.mean_uniform, sum_evenGrid_div hn, sum_evenGrid_deviation_sq_div hn]
  exact ⟨evenlySpaced_evenGrid hn h, rfl, rfl, rfl, rfl⟩

/-- Five points of the unit interval. -/
theorem uniform_moments_are_sums_fivePoints :
    ∃ (d : Distribution ℝ) (masses : Masses ℝ),
      discreteUniform? ((5 : ℕ) : ℝ) 0 1 = .ok d ∧ d.masses? = some masses ∧
      EvenlySpaced 5 0 1 masses.support ∧
      d.mean = (masses.support.map fun value => value / ((5 : ℕ) : ℝ)).sum ∧
      d.mean = masses.mean ∧
      d.variance =
        (masses.support.map fun value => (value - d.mean) ^ 2 / ((5 : ℕ) : ℝ)).sum ∧
      d.variance = masses.variance :=
  uniform_moments_are_sums (show 2 ≤ 5 by omega) one_pos

end Distribution

namespace Masses

/-- The probabilities are those of a distribution. -/
structure IsProbability (masses : Masses K) : Prop where
  /-- No probability is negative. -/
  nonneg : ∀ point ∈ masses.points, 0 ≤ point.2
  /-- The probabilities add up to one. -/
  sum_eq : (masses.points.map Prod.snd).sum = 1

/-- A number is one of the points, and no point is more probable by more than a margin. -/
def IsMode (masses : Masses K) (margin x : K) : Prop :=
  ∃ point ∈ masses.points, point.1 = x ∧ ∀ other ∈ masses.points, other.2 ≤ point.2 + margin

variable {masses : Masses K}

/-! ### The most probable point -/

variable [IsStrictOrderedRing K]

/-- The more probable of two points is one of them; it is at least as probable as the first, and not
less probable than the second by more than the margin. -/
theorem moreProbable_spec (best point : K × K) :
    moreProbable best point ∈ [best, point] ∧ best.2 ≤ (moreProbable best point).2 ∧
      point.2 ≤ (moreProbable best point).2 + 1e-15 := by
  have hmargin : (0 : K) < 1e-15 := by norm_num
  unfold moreProbable
  split
  · rename_i h
    exact ⟨by simp, by linarith, by linarith⟩
  · rename_i h
    exact ⟨by simp, le_rfl, not_lt.1 h⟩

/-- The scan for the most probable point. The point that it begins with is kept apart, because
without a margin it is at most as probable as the point that is found. -/
theorem foldl_moreProbable (first : K × K) (rest : List (K × K)) :
    rest.foldl moreProbable first ∈ first :: rest ∧
      first.2 ≤ (rest.foldl moreProbable first).2 ∧
      ∀ point ∈ rest, point.2 ≤ (rest.foldl moreProbable first).2 + 1e-15 := by
  induction rest generalizing first with
  | nil => simp
  | cons point rest ih =>
    obtain ⟨hmem, hfirst, hpoint⟩ := moreProbable_spec first point
    obtain ⟨hfound, hle, hrest⟩ := ih (moreProbable first point)
    rw [List.foldl_cons]
    refine ⟨?_, hfirst.trans hle, ?_⟩
    · rcases List.mem_cons.1 hfound with heq | hin
      · rw [heq]
        exact List.mem_append_left rest hmem
      · simp [hin]
    · intro other hother
      rcases List.mem_cons.1 hother with rfl | hin
      · linarith
      · exact hrest other hin

/-- The mode of masses is one of their most probable points, up to the margin of its comparison. -/
theorem isMode_mode (hne : masses.points ≠ []) : masses.IsMode 1e-15 masses.mode := by
  have hmargin : (0 : K) < 1e-15 := by norm_num
  obtain ⟨first, rest, hpoints⟩ := List.exists_cons_of_ne_nil hne
  obtain ⟨hmem, hfirst, hrest⟩ := foldl_moreProbable first rest
  unfold IsMode mode
  rw [hpoints]
  refine ⟨_, hmem, rfl, fun other hother => ?_⟩
  rcases List.mem_cons.1 hother with rfl | hin
  · linarith
  · exact hrest other hin

/-! ### The mean -/

/-- The mean of points between two bounds lies between them. -/
theorem IsProbability.mean_mem_Icc (h : masses.IsProbability) {lo hi : K}
    (hbounds : ∀ point ∈ masses.points, point.1 ∈ Set.Icc lo hi) :
    masses.mean ∈ Set.Icc lo hi := by
  -- a bound is the average of itself
  have hbound (bound : K) :
      (masses.points.map fun point => bound * point.2).sum = bound := by
    have hsum : (masses.points.map fun point => point.2).sum = 1 := h.sum_eq
    rw [List.sum_map_mul_left, hsum, mul_one]
  rw [mean, Scalar.sum_field]
  constructor
  · rw [← hbound lo]
    refine List.sum_le_sum fun point hmem => ?_
    exact mul_le_mul_of_nonneg_right (hbounds point hmem).1 (h.nonneg point hmem)
  · rw [← hbound hi]
    refine List.sum_le_sum fun point hmem => ?_
    exact mul_le_mul_of_nonneg_right (hbounds point hmem).2 (h.nonneg point hmem)

end Masses

variable [IsStrictOrderedRing K]

/-- The bins of a monotone transformation share out the probability one. -/
theorem SkewTransform.isProbability_masses {Φ quantile : K → K} {transform : SkewTransform K}
    (hmono : Monotone (transform.cdf Φ quantile)) {n : ℕ} (hn : n ≠ 0) (lo hi : K) :
    (transform.masses Φ quantile n lo hi).IsProbability := by
  have hpos : (n : K) ≠ 0 := Nat.cast_ne_zero.2 hn
  refine ⟨?_, ?_⟩
  · simp only [points_masses, List.forall_mem_map]
    exact fun k _ => binMass_nonneg hmono n k
  · have hall := Masses.partialSum_eq_sum (points_masses Φ quantile transform n lo hi) n
    rw [min_self, sum_binMass, div_self hpos, cdf_of_one_le le_rfl] at hall
    rw [← hall, Masses.partialSum_of_length_le (by simp [points_masses])]

namespace Distribution

variable [ElementaryFunctions K]

/-- A transformed normal in bins is a distribution on an even grid, for any monotone functions in
the place of the normal's distribution function and its inverse. -/
theorem skewed_bins_distribute {Φ quantile : K → K} (hΦ : Monotone Φ)
    (hrange : ∀ x, Φ x ∈ Set.Icc 0 1) (hquantile : MonotoneOn quantile (Set.Ioo 0 1)) {n : ℕ}
    (hn : 2 ≤ n) {lo hi skewness width : K} (h : lo < hi) (hwidth : 0 < width) :
    ∃ (d : Distribution K) (masses : Masses K),
      discreteSkewedOf? Φ quantile n lo hi skewness width = .ok d ∧ d.masses? = some masses ∧
      EvenlySpaced n lo hi masses.support ∧ masses.IsProbability ∧ masses.IsMode 1e-15 d.mode ∧
      d.mean ∈ Set.Icc lo hi := by
  let transform : SkewTransform K := ⟨skewness, width⟩
  let masses := transform.masses Φ quantile n lo hi
  have hmono : Monotone (transform.cdf Φ quantile) :=
    SkewTransform.monotone_cdf hΦ hrange hquantile hwidth
  have hprobability : masses.IsProbability :=
    SkewTransform.isProbability_masses hmono (by omega) lo hi
  have hpoints : masses.points = _ := points_masses Φ quantile transform n lo hi
  have hne : masses.points ≠ [] := List.ne_nil_of_length_pos (by simp [hpoints]; omega)
  have hbounds : ∀ point ∈ masses.points, point.1 ∈ Set.Icc lo hi := by
    simp only [hpoints, List.forall_mem_map, List.mem_range]
    exact fun k hk => gridPoint_mem_Icc hn h hk
  refine ⟨.discreteSkewed masses, masses, ?_, rfl, ?_, hprobability, Masses.isMode_mode hne,
    hprobability.mean_mem_Icc hbounds⟩
  · exact discreteSkewedOf?_eq_ok_iff.2 ⟨n, hn, rfl, h, hwidth, rfl⟩
  · rw [support_masses]
    exact evenlySpaced_evenGrid hn h

/-- Four bins of the normal itself. -/
theorem skewed_bins_distribute_normal :
    (Monotone RealNormal.cdf ∧ (∀ x, RealNormal.cdf x ∈ Set.Icc 0 1) ∧
        MonotoneOn RealNormal.quantile (Set.Ioo 0 1)) ∧
      ∃ (d : Distribution ℝ) (masses : Masses ℝ),
        discreteSkewedOf? RealNormal.cdf RealNormal.quantile ((4 : ℕ) : ℝ) 0 3 0.5 2 = .ok d ∧
        d.masses? = some masses ∧ EvenlySpaced 4 0 3 masses.support ∧ masses.IsProbability ∧
        masses.IsMode 1e-15 d.mode ∧ d.mean ∈ Set.Icc 0 3 := by
  refine ⟨⟨RealNormal.monotone_cdf, RealNormal.cdf_mem_Icc, RealNormal.monotoneOn_quantile⟩, ?_⟩
  exact skewed_bins_distribute RealNormal.monotone_cdf RealNormal.cdf_mem_Icc
    RealNormal.monotoneOn_quantile (by omega) (by norm_num) (by norm_num)

end Distribution

end EnsembleDesk

import EnsembleDesk.Proofs.Density.ExactFamilies
import EnsembleDesk.Proofs.Density.RealNormal
/-!
# Discrete distributions at their points

A number counts as a point of a discrete distribution if it is within a tolerance of it, and the
tolerance depends on the size of the bounds, not on the distance between the points. It may span
several steps of the grid. Then the density at a point is the probability of an earlier one, and the
distribution function counts later ones in: the points are blurred
(`Distribution.BlursPoints`).

## Main results

* `Distribution.exact_on_grid_iff`: every discrete distribution blurs its points by as many steps as
  its tolerance spans, and is exact at its points if and only if the tolerance spans none.
-/

namespace EnsembleDesk

variable {K : Type} [Field K] [LinearOrder K] [FloorSemiring K]

/-! ### What a distribution answers at its points -/

namespace Distribution

variable [ElementaryFunctions K]

/-- At every point, the density is the probability of the point, and the distribution function the
sum of the probabilities up to the point. -/
structure ExactOn (d : Distribution K) (masses : Masses K) : Prop where
  /-- The density is the probability. -/
  pdf_eq : ∀ k (h : k < masses.points.length), d.pdf masses.points[k].1 = masses.points[k].2
  /-- The distribution function adds the probabilities up. -/
  cdf_eq : ∀ k (h : k < masses.points.length),
    d.cdf masses.points[k].1 = masses.partialSum (k + 1)

/-- At every point, the density is the probability of the point `reach` places before, and the
distribution function the sum of the probabilities up to the point `reach` places behind, as far as
there are such points. -/
structure BlursPoints (d : Distribution K) (masses : Masses K) (reach : ℕ) : Prop where
  /-- The density is the probability of an earlier point. -/
  pdf_eq : ∀ k (h : k < masses.points.length),
    d.pdf masses.points[k].1 = masses.points[k - reach].2
  /-- The distribution function counts later points in. -/
  cdf_eq : ∀ k (h : k < masses.points.length),
    d.cdf masses.points[k].1 = masses.partialSum (k + reach + 1)

end Distribution

/-! ### Looking points up -/

/-- How far a number may be from a point of a grid and still count as the point. -/
def gridTolerance (lo hi : K) : K := 1e-9 * max (max (max (hi - lo) |lo|) |hi|) 1

/-- The number of steps of a grid that the tolerance spans. -/
def gridReach (n : ℕ) (lo hi : K) : ℕ := ⌊gridTolerance lo hi / gridStep n lo hi⌋₊

/-- If a property holds of the entries at the first `m` places and of no others, then the entries
that are taken while it holds are the first `m`. -/
theorem takeWhile_eq_take {β : Type} {l : List β} {p : β → Bool} {m : ℕ}
    (h : ∀ j (hj : j < l.length), p l[j] = true ↔ j < m) : l.takeWhile p = l.take m := by
  induction l generalizing m with
  | nil => simp
  | cons a l ih =>
    have hhead := h 0 (Nat.zero_lt_succ _)
    cases m with
    | zero =>
      have ha : ¬ p a = true := by simpa using hhead
      rw [List.takeWhile_cons_of_neg ha, List.take_zero]
    | succ m =>
      have ha : p a = true := hhead.2 (Nat.zero_lt_succ m)
      rw [List.takeWhile_cons_of_pos ha, List.take_succ_cons]
      congr 1
      refine ih fun j hj => ?_
      have hnext := h (j + 1) (Nat.succ_lt_succ hj)
      rwa [List.getElem_cons_succ, Nat.add_lt_add_iff_right] at hnext

variable {n : ℕ} {lo hi : K} {masses : Masses K}

/-- Probabilities on the points of an even grid. -/
structure Masses.OnGrid (masses : Masses K) (n : ℕ) (lo hi : K) : Prop where
  /-- There are several points. -/
  two_le : 2 ≤ n
  /-- The grid is not a single place. -/
  lt : lo < hi
  /-- There is a probability for each point. -/
  length_eq : masses.points.length = n
  /-- The points are those of the grid. -/
  value_eq : ∀ k (h : k < masses.points.length), masses.points[k].1 = gridPoint n lo hi k
  /-- The probabilities of the first points add up to one at most. -/
  partialSum_le : ∀ m, masses.partialSum m ≤ 1
  /-- All of them add up to one. -/
  partialSum_eq : masses.partialSum n = 1

/-- Points that are told by their numbers. -/
theorem Masses.OnGrid.of_points {probability : ℕ → K}
    (hpoints : masses.points = (List.range n).map fun k => (gridPoint n lo hi k, probability k))
    (hn : 2 ≤ n) (h : lo < hi) (hle : ∀ m ≤ n, ∑ k ∈ Finset.range m, probability k ≤ 1)
    (heq : ∑ k ∈ Finset.range n, probability k = 1) : masses.OnGrid n lo hi where
  two_le := hn
  lt := h
  length_eq := by simp [hpoints]
  value_eq k hk := by simp [hpoints]
  partialSum_le m := by
    rw [partialSum_eq_sum hpoints]
    exact hle _ (min_le_right m n)
  partialSum_eq := by rw [partialSum_eq_sum hpoints, min_self, heq]

variable [IsStrictOrderedRing K]

/-- The tolerance of a lookup is positive. -/
theorem gridTolerance_pos (lo hi : K) : 0 < gridTolerance lo hi := by
  have hone : 1 ≤ max (max (max (hi - lo) |lo|) |hi|) 1 := le_max_right _ _
  unfold gridTolerance
  exact mul_pos (by norm_num) (by linarith)

/-- A number of steps is within the tolerance if and only if it is at most the reach. -/
theorem mul_gridStep_le_iff (hn : 2 ≤ n) (h : lo < hi) (m : ℕ) :
    (m : K) * gridStep n lo hi ≤ gridTolerance lo hi ↔ m ≤ gridReach n lo hi := by
  have hstep := gridStep_pos hn h
  have hquotient := div_pos (gridTolerance_pos lo hi) hstep
  rw [gridReach, Nat.le_floor_iff hquotient.le, le_div_iff₀ hstep]

/-- The tolerance spans no step if and only if it is less than a step. -/
theorem gridReach_eq_zero_iff (hn : 2 ≤ n) (h : lo < hi) :
    gridReach n lo hi = 0 ↔ gridTolerance lo hi < gridStep n lo hi := by
  have hone := mul_gridStep_le_iff hn h 1
  rw [Nat.cast_one, one_mul] at hone
  rw [← not_le, hone]
  omega

/-- A point of a grid is at most the tolerance above another if and only if it comes at most the
reach behind it. -/
theorem gridPoint_le_add_iff (hn : 2 ≤ n) (h : lo < hi) (j k : ℕ) :
    gridPoint n lo hi j ≤ gridPoint n lo hi k + gridTolerance lo hi ↔
      j ≤ k + gridReach n lo hi := by
  have hsub : gridPoint n lo hi j - gridPoint n lo hi k = _ := gridPoint_sub j k
  rcases le_total j k with hjk | hkj
  · have hle := (strictMono_gridPoint hn h).monotone hjk
    have hpos := gridTolerance_pos lo hi
    exact iff_of_true (by linarith) (by omega)
  · rw [← Nat.cast_sub hkj] at hsub
    rw [← sub_le_iff_le_add', hsub, mul_gridStep_le_iff hn h]
    omega

namespace Masses.OnGrid

omit [IsStrictOrderedRing K] in
/-- Masses on an even grid have its points as their support. -/
theorem support_eq (h : masses.OnGrid n lo hi) : masses.support = evenGrid n lo hi := by
  refine List.ext_getElem (by simp [support, evenGrid, h.length_eq]) fun k hk _ => ?_
  rw [support, List.length_map] at hk
  simp [support, evenGrid_eq_map, h.value_eq k hk]

/-- Masses on an even grid are looked up with the tolerance of the grid. -/
theorem tolerance_eq (h : masses.OnGrid n lo hi) : masses.tolerance = gridTolerance lo hi := by
  have hn := h.two_le
  have hlength := h.length_eq
  have hne : masses.points ≠ [] := List.ne_nil_of_length_pos (by omega)
  have hhead : (masses.points.head hne).1 = lo := by
    rw [List.head_eq_getElem, h.value_eq, gridPoint_zero]
  have hlast : (masses.points.getLast hne).1 = hi := by
    rw [List.getLast_eq_getElem, h.value_eq, hlength, gridPoint_last hn]
  have hspan : |hi - lo| = hi - lo := abs_of_pos (sub_pos.2 h.lt)
  unfold tolerance gridTolerance
  rw [List.head?_eq_some_head hne, List.getLast?_eq_some_getLast hne]
  simp [hhead, hlast, hspan]

/-- The first point that a point counts as comes the reach before it. -/
theorem pdf_eq (h : masses.OnGrid n lo hi) {k : ℕ} (hk : k < masses.points.length) :
    masses.pdf masses.points[k].1 = masses.points[k - gridReach n lo hi].2 := by
  have hnear (j : ℕ) (hj : j < masses.points.length) :
      Scalar.magnitude (masses.points[j].1 - masses.points[k].1) ≤ masses.tolerance ↔
        j ≤ k + gridReach n lo hi ∧ k ≤ j + gridReach n lo hi := by
    rw [Scalar.magnitude_field, abs_sub_le_iff, h.tolerance_eq, h.value_eq, h.value_eq,
      sub_le_iff_le_add', sub_le_iff_le_add', gridPoint_le_add_iff h.two_le h.lt,
      gridPoint_le_add_iff h.two_le h.lt]
  have hfound : masses.points.find? (fun point =>
      Scalar.magnitude (point.1 - masses.points[k].1) ≤ masses.tolerance) =
        some masses.points[k - gridReach n lo hi] := by
    rw [List.find?_eq_some_iff_getElem]
    refine ⟨by simp only [hnear, decide_eq_true_eq]; omega, k - gridReach n lo hi, by omega, rfl,
      fun j hj => ?_⟩
    simp only [hnear, Bool.not_eq_true', decide_eq_false_iff_not]
    omega
  unfold pdf
  rw [hfound]

/-- The points up to a point are those up to the reach behind it. -/
theorem cdf_eq (h : masses.OnGrid n lo hi) {k : ℕ} (hk : k < masses.points.length) :
    masses.cdf masses.points[k].1 = masses.partialSum (k + gridReach n lo hi + 1) := by
  have hupTo : masses.points.takeWhile (fun point =>
      point.1 ≤ masses.points[k].1 + masses.tolerance) =
        masses.points.take (k + gridReach n lo hi + 1) := by
    refine takeWhile_eq_take fun j hj => ?_
    rw [decide_eq_true_iff, h.tolerance_eq, h.value_eq, h.value_eq,
      gridPoint_le_add_iff h.two_le h.lt, Nat.lt_succ_iff]
  have hle := h.partialSum_le (k + gridReach n lo hi + 1)
  unfold cdf
  simp only [hupTo, Scalar.sum_field, Scalar.smaller_field, Scalar.one_field]
  exact min_eq_left hle

end Masses.OnGrid

namespace Distribution

variable [ElementaryFunctions K] {d : Distribution K}

/-- A distribution on a grid blurs its points by the steps that its tolerance spans. -/
theorem blursPoints (hmasses : d.masses? = some masses) (h : masses.OnGrid n lo hi) :
    d.BlursPoints masses (gridReach n lo hi) := by
  refine ⟨fun k hk => ?_, fun k hk => ?_⟩
  · rw [pdf_of_masses? hmasses, h.pdf_eq hk]
  · rw [cdf_of_masses? hmasses, h.cdf_eq hk]

/-- A distribution that is exact at its points does not blur them. -/
theorem reach_eq_zero_of_exactOn (hmasses : d.masses? = some masses) (h : masses.OnGrid n lo hi)
    (hexact : d.ExactOn masses) : gridReach n lo hi = 0 := by
  by_contra hne
  have hblurs := blursPoints hmasses h
  have hlength := h.length_eq
  have hn := h.two_le
  have htotal (m : ℕ) (hm : n ≤ m) : masses.partialSum m = 1 := by
    rw [Masses.partialSum_of_length_le (by omega), ← h.partialSum_eq,
      Masses.partialSum_of_length_le (by omega)]
  generalize gridReach n lo hi = reach at hne hblurs
  -- the sums do not change over the reach, so they are one from the first point on
  have hconstant (i : ℕ) : masses.partialSum (i * reach + 1) = masses.partialSum 1 := by
    induction i with
    | zero => rw [Nat.zero_mul]
    | succ i ih =>
      rw [← ih]
      by_cases hi : i * reach < masses.points.length
      · rw [Nat.succ_mul, ← hblurs.cdf_eq _ hi, hexact.cdf_eq _ hi]
      · rw [htotal _ (by rw [Nat.succ_mul]; omega), htotal _ (by omega)]
  have hfirst : masses.partialSum 1 = 1 := by
    have hmul := Nat.le_mul_of_pos_right n (Nat.pos_of_ne_zero hne)
    rw [← hconstant n, htotal _ (by omega)]
  have hhead : masses.points[0].2 = 1 := by
    rw [Masses.partialSum_succ (k := 0) (by omega)] at hfirst
    simpa [Masses.partialSum] using hfirst
  -- the second point has the probability of the first one, which leaves no room for it
  have hsecond : masses.points[1].2 = 1 := by
    have hback : 1 - reach = 0 := by omega
    have hpdf := hblurs.pdf_eq 1 (by omega)
    rw [hexact.pdf_eq 1 (by omega)] at hpdf
    simpa only [hback, hhead] using hpdf
  have hle := h.partialSum_le 2
  rw [Masses.partialSum_succ (k := 1) (by omega), hfirst, hsecond] at hle
  norm_num at hle

/-- A distribution on a grid is exact at its points if and only if the tolerance is less than a
step. -/
theorem exactOn_iff (hmasses : d.masses? = some masses) (h : masses.OnGrid n lo hi) :
    d.ExactOn masses ↔ gridTolerance lo hi < gridStep n lo hi := by
  rw [← gridReach_eq_zero_iff h.two_le h.lt]
  refine ⟨reach_eq_zero_of_exactOn hmasses h, fun hzero => ?_⟩
  have hblurs := blursPoints hmasses h
  rw [hzero] at hblurs
  exact ⟨hblurs.pdf_eq, hblurs.cdf_eq⟩

/-! ### The discrete families -/

/-- The masses of the uniform family are on an even grid. -/
theorem onGrid_uniform (hn : 2 ≤ n) (h : lo < hi) : (Masses.uniform n lo hi).OnGrid n lo hi := by
  have hpos : (0 : K) < n := Nat.cast_pos.2 (by omega)
  have hsum (m : ℕ) : ∑ _k ∈ Finset.range m, 1 / (n : K) = (m : K) / (n : K) := by
    rw [Finset.sum_const, Finset.card_range, nsmul_eq_mul, mul_one_div]
  refine .of_points (points_uniform n lo hi) hn h (fun m hm => ?_) ?_
  · rw [hsum, div_le_one hpos]
    exact Nat.cast_le.2 hm
  · rw [hsum, div_self hpos.ne']

/-- The masses of the skewed family are on an even grid. -/
theorem onGrid_skewed {Φ quantile : K → K} (hΦ : ∀ x, Φ x ≤ 1) (transform : SkewTransform K)
    (hn : 2 ≤ n) (h : lo < hi) : (transform.masses Φ quantile n lo hi).OnGrid n lo hi := by
  have hpos : (0 : K) < n := Nat.cast_pos.2 (by omega)
  refine .of_points (points_masses Φ quantile transform n lo hi) hn h (fun m _ => ?_) ?_
  · rw [SkewTransform.sum_binMass]
    have hone : (1 : K) ∈ Set.Iic 1 := le_rfl
    exact SkewTransform.cdf_mem zero_le_one hone hΦ _
  · rw [SkewTransform.sum_binMass, div_self hpos.ne', SkewTransform.cdf_of_one_le le_rfl]

/-- A discrete distribution blurs its points by as many steps as its tolerance spans, and it is
exact at them if and only if the tolerance is less than a step. -/
theorem exact_on_grid_iff {Φ quantile : K → K} (hΦ : ∀ x, Φ x ≤ 1)
    {bins lo hi skewness width : K} {d : Distribution K}
    (h : discreteUniform? bins lo hi = .ok d ∨
      discreteSkewedOf? Φ quantile bins lo hi skewness width = .ok d) :
    ∃ (n : ℕ) (masses : Masses K), bins = n ∧ d.masses? = some masses ∧
      EvenlySpaced n lo hi masses.support ∧ d.BlursPoints masses (gridReach n lo hi) ∧
      (d.ExactOn masses ↔ gridTolerance lo hi < gridStep n lo hi) := by
  -- both families put their masses on the even grid of the range
  obtain ⟨n, masses, hbins, hmasses, hgrid⟩ :
      ∃ (n : ℕ) (masses : Masses K), bins = n ∧ d.masses? = some masses ∧
        masses.OnGrid n lo hi := by
    rcases h with h | h
    · obtain ⟨n, hn, hbins, hlt, rfl⟩ := discreteUniform?_eq_ok_iff.1 h
      exact ⟨n, _, hbins, rfl, onGrid_uniform hn hlt⟩
    · obtain ⟨n, hn, hbins, hlt, -, rfl⟩ := discreteSkewedOf?_eq_ok_iff.1 h
      exact ⟨n, _, hbins, rfl, onGrid_skewed hΦ _ hn hlt⟩
  refine ⟨n, masses, hbins, hmasses, ?_, blursPoints hmasses hgrid, exactOn_iff hmasses hgrid⟩
  rw [hgrid.support_eq]
  exact evenlySpaced_evenGrid hgrid.two_le hgrid.lt

/-- Five points of the unit interval are told apart; two points at a distance of `10⁻¹⁰` are not. -/
theorem exact_on_grid_iff_twoScales :
    ∃ wide narrow : Distribution ℝ,
      (∀ x, RealNormal.cdf x ≤ 1) ∧ discreteUniform? 5 0 1 = .ok wide ∧
      discreteSkewedOf? RealNormal.cdf RealNormal.quantile 2 0 (1 / 10 ^ 10) 1 1 = .ok narrow ∧
      (∃ masses, wide.masses? = some masses ∧ wide.ExactOn masses) ∧
      ∃ masses, narrow.masses? = some masses ∧ ¬ narrow.ExactOn masses := by
  have hΦ (x : ℝ) : RealNormal.cdf x ≤ 1 := (RealNormal.cdf_mem_Icc x).2
  obtain ⟨wide, hwide⟩ : ∃ d, discreteUniform? (5 : ℝ) 0 1 = .ok d :=
    ⟨_, discreteUniform?_eq_ok_iff.2 ⟨5, by omega, by norm_num, by norm_num, rfl⟩⟩
  obtain ⟨narrow, hnarrow⟩ : ∃ d,
      discreteSkewedOf? RealNormal.cdf RealNormal.quantile 2 0 (1 / 10 ^ 10) 1 1 = .ok d :=
    ⟨_, discreteSkewedOf?_eq_ok_iff.2 ⟨2, le_rfl, by norm_num, by norm_num, by norm_num, rfl⟩⟩
  refine ⟨wide, narrow, hΦ, hwide, hnarrow, ?_, ?_⟩
  · have hfamily : discreteUniform? (5 : ℝ) 0 1 = .ok wide ∨
        discreteSkewedOf? RealNormal.cdf RealNormal.quantile 5 0 1 1 1 = .ok wide :=
      .inl hwide
    obtain ⟨n, masses, hn, hmasses, -, -, hexact⟩ := exact_on_grid_iff hΦ hfamily
    obtain rfl : 5 = n := by exact_mod_cast hn
    refine ⟨masses, hmasses, hexact.2 ?_⟩
    norm_num [gridTolerance, gridStep]
  · obtain ⟨n, masses, hn, hmasses, -, -, hexact⟩ := exact_on_grid_iff hΦ (.inr hnarrow)
    obtain rfl : 2 = n := by exact_mod_cast hn
    refine ⟨masses, hmasses, fun h => ?_⟩
    have hlt := hexact.1 h
    norm_num [gridTolerance, gridStep] at hlt

/-- Not every discrete distribution is exact at its points: of the two points zero and `10⁻¹⁰`, the
distribution function counts the second one in at the first one. -/
theorem close_points_confused :
    ¬ ∀ [ElementaryFunctions ℚ] (bins lo hi : ℚ) (d : Distribution ℚ) (masses : Masses ℚ),
      discreteUniform? bins lo hi = .ok d → d.masses? = some masses → d.ExactOn masses := by
  intro hexact
  -- no function besides arithmetic is asked, so any will do
  let : ElementaryFunctions ℚ := ⟨id, id, id, fun x _ => x, id, id, 0⟩
  have hok : discreteUniform? (2 : ℚ) 0 (1 / 10 ^ 10) = .ok _ :=
    discreteUniform?_eq_ok_iff.2 ⟨2, le_rfl, by norm_num, by norm_num, rfl⟩
  have hlt := (exactOn_iff rfl (onGrid_uniform le_rfl (by norm_num))).1 (hexact _ _ _ _ _ hok rfl)
  norm_num [gridTolerance, gridStep] at hlt

end Distribution

end EnsembleDesk

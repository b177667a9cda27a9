import Mathlib.Algebra.BigOperators.Intervals
import Mathlib.Order.Interval.Set.Defs
import Mathlib.Tactic.NormNum
import EnsembleDesk.Density.Family
import EnsembleDesk.Proofs.Density.EvenGrids
import EnsembleDesk.Proofs.Result
/-!
# Families over exact numbers

Over exact numbers a check refuses a parameter only for what it is, never for being infinite or NaN.
The lemmas say which parameters make a distribution of a discrete or a triangular family, and which
one: `Distribution.discreteUniform?_eq_ok_iff`, `Distribution.discreteSkewedOf?_eq_ok_iff` and
`Distribution.triangular?_eq_ok_iff`.

The distribution function of a skewed transformation is zero up to zero and one from one on,
whatever stands in the place of the normal's distribution function and quantile function. So the
probabilities of bins telescope (`SkewTransform.sum_binMass`), and all bins together have the
probability one. That no bin has a negative probability needs functions that are monotone
(`SkewTransform.binMass_nonneg`).
-/

namespace EnsembleDesk

/-! ### Bins of a skewed transformation -/

namespace SkewTransform

variable {K : Type} [Field K] [LinearOrder K] [FloorSemiring K]
variable {Φ quantile : K → K} {transform : SkewTransform K} {u : K}

/-- The three pieces of the distribution function. -/
theorem cdf_eq_ite (u : K) :
    transform.cdf Φ quantile u =
      if u ≤ 0 then 0
      else if 1 ≤ u then 1
      else Φ (transform.width * quantile u - transform.skewness) := by
  simp only [cdf, Scalar.zero_field, Scalar.one_field]

/-- The distribution function is zero up to zero. -/
theorem cdf_of_nonpos (h : u ≤ 0) : transform.cdf Φ quantile u = 0 := by
  rw [cdf_eq_ite, if_pos h]

/-- The distribution function is one from one on. -/
theorem cdf_of_one_le (h : 1 ≤ u) : transform.cdf Φ quantile u = 1 := by
  have hpos : ¬ u ≤ 0 := not_le.2 (zero_lt_one.trans_le h)
  rw [cdf_eq_ite, if_neg hpos, if_pos h]

/-- What holds of zero, of one and of the normal's distribution function holds of the distribution
function. -/
theorem cdf_mem {values : Set K} (hzero : 0 ∈ values) (hone : 1 ∈ values) (hΦ : ∀ x, Φ x ∈ values)
    (u : K) : transform.cdf Φ quantile u ∈ values := by
  rw [cdf_eq_ite]
  split
  · exact hzero
  · split
    · exact hone
    · exact hΦ _

/-- The distribution function is monotone, across its two ends, too. -/
theorem monotone_cdf [IsStrictOrderedRing K] (hΦ : Monotone Φ) (hrange : ∀ x, Φ x ∈ Set.Icc 0 1)
    (hquantile : MonotoneOn quantile (Set.Ioo 0 1)) (hwidth : 0 < transform.width) :
    Monotone (transform.cdf Φ quantile) := by
  intro u v huv
  have hmem (w : K) : transform.cdf Φ quantile w ∈ Set.Icc 0 1 :=
    cdf_mem (Set.left_mem_Icc.2 zero_le_one) (Set.right_mem_Icc.2 zero_le_one) hrange w
  by_cases hlow : u ≤ 0
  · rw [cdf_of_nonpos hlow]
    exact (hmem v).1
  by_cases hhigh : 1 ≤ v
  · rw [cdf_of_one_le hhigh]
    exact (hmem u).2
  -- between the ends both numbers go through the same monotone functions
  have hu : u ∈ Set.Ioo 0 1 := ⟨not_le.1 hlow, huv.trans_lt (not_le.1 hhigh)⟩
  have hv : v ∈ Set.Ioo 0 1 := ⟨(not_le.1 hlow).trans_le huv, not_le.1 hhigh⟩
  rw [cdf_eq_ite, cdf_eq_ite, if_neg hlow, if_neg (not_le.2 hu.2), if_neg (not_le.2 hv.1),
    if_neg hhigh]
  refine hΦ (sub_le_sub_right ?_ _)
  exact mul_le_mul_of_nonneg_left (hquantile hu hv huv) hwidth.le

/-- The first bins together reach up to the upper edge of the last of them. -/
theorem sum_binMass (n m : ℕ) :
    ∑ k ∈ Finset.range m, transform.binMass Φ quantile n k =
      transform.cdf Φ quantile ((m : K) / (n : K)) := by
  have hedge := Finset.sum_range_sub
    (fun k : ℕ => transform.cdf Φ quantile ((k : K) / (n : K))) m
  have hfirst : transform.cdf Φ quantile (((0 : ℕ) : K) / (n : K)) = 0 :=
    cdf_of_nonpos (by simp)
  rw [hfirst, sub_zero] at hedge
  exact hedge

/-- No bin of a monotone distribution function has a negative probability. -/
theorem binMass_nonneg [IsStrictOrderedRing K] (hmono : Monotone (transform.cdf Φ quantile))
    (n k : ℕ) : 0 ≤ transform.binMass Φ quantile n k := by
  refine sub_nonneg.2 (hmono ?_)
  have hle : ((k : ℕ) : K) ≤ ((k + 1 : ℕ) : K) := Nat.cast_le.2 (Nat.le_succ k)
  exact div_le_div_of_nonneg_right hle (Nat.cast_nonneg n)

end SkewTransform

namespace Distribution

variable {α : Type}

/-- The points of a discrete distribution on a grid, with their probabilities. -/
def masses? : Distribution α → Option (Masses α)
  | discreteUniform _ _ _ masses => some masses
  | discreteSkewed masses => some masses
  | _ => none

section Functions

variable [Elementary α] {d : Distribution α} {masses : Masses α}

/-- The density of a distribution on a grid is the probability of the point that is found. -/
theorem pdf_of_masses? (h : d.masses? = some masses) (x : α) : d.pdf x = masses.pdf x := by
  unfold masses? at h
  split at h <;> cases h <;> rfl

/-- The distribution function of a distribution on a grid adds up probabilities. -/
theorem cdf_of_masses? (h : d.masses? = some masses) (x : α) : d.cdf x = masses.cdf x := by
  unfold masses? at h
  split at h <;> cases h <;> rfl

end Functions

/-! ### Checks -/

variable {K : Type} [Field K] [LinearOrder K] [FloorSemiring K] [ElementaryFunctions K]
variable {bins lo hi skewness width : K} {n : ℕ} {d : Distribution K}

/-- No number of a field is refused for being infinite. -/
@[simp]
theorem checkFinite_field (name : String) (x : K) : checkFinite name x = .ok () := rfl

/-- A standard deviation passes if it is positive. -/
theorem checkStd_eq_ok_iff {std : K} {passed : Unit} : checkStd std = .ok passed ↔ 0 < std := by
  simp [checkStd]

/-- Bounds pass if they are in order. -/
theorem checkRange_eq_ok_iff {passed : Unit} : checkRange lo hi = .ok passed ↔ lo < hi := by
  simp [checkRange]

/-- A mode passes if it lies between bounds that are in order. -/
theorem checkMode_eq_ok_iff {mode : K} {passed : Unit} :
    checkMode lo mode hi = .ok passed ↔ lo < hi ∧ mode ∈ Set.Icc lo hi := by
  simp only [checkMode, Except.bind_eq_ok_iff, checkRange_eq_ok_iff, checkFinite_field]
  by_cases hmode : mode ∈ Set.Icc lo hi <;> simp [hmode]

/-- A transformation passes if its width is positive. -/
theorem skewTransform_eq_ok_iff {transform : SkewTransform K} :
    skewTransform skewness width = .ok transform ↔ 0 < width ∧ transform = ⟨skewness, width⟩ := by
  simp only [skewTransform, checkFinite_field, Except.ok_bind, Scalar.zero_field]
  split
  · rename_i h
    simp [not_lt.2 h]
  · rename_i h
    simp [not_le.1 h, eq_comm]

/-- In a field there is room for every grid. -/
@[simp]
theorem allocate_field (n : ℕ) : allocate K n = .ok () := rfl

/-! ### Constructors -/

/-- Which parameters make a normal distribution. -/
theorem normal?_eq_ok_iff {mean std : K} :
    normal? mean std = .ok d ↔ 0 < std ∧ d = .normal mean std := by
  simp only [normal?, checkFinite_field, Except.ok_bind, Except.bind_eq_ok_iff, checkStd_eq_ok_iff]
  constructor
  · rintro ⟨-, hstd, hd⟩
    exact ⟨hstd, (Except.ok.inj hd).symm⟩
  · rintro ⟨hstd, rfl⟩
    exact ⟨(), hstd, rfl⟩

/-- Whatever mass the interval has, its bounds are in order. -/
theorem lt_of_truncatedNormal?_eq_ok {mean std : K} (h : truncatedNormal? mean std lo hi = .ok d) :
    lo < hi := by
  simp only [truncatedNormal?, Except.bind_eq_ok_iff, checkRange_eq_ok_iff] at h
  obtain ⟨-, -, -, -, -, hrange, -⟩ := h
  exact hrange

/-- Which bounds make a uniform distribution. -/
theorem uniform?_eq_ok_iff : uniform? lo hi = .ok d ↔ lo < hi ∧ d = .uniform lo hi := by
  simp only [uniform?, Except.bind_eq_ok_iff, checkRange_eq_ok_iff]
  constructor
  · rintro ⟨-, h, hd⟩
    exact ⟨h, (Except.ok.inj hd).symm⟩
  · rintro ⟨h, rfl⟩
    exact ⟨(), h, rfl⟩

/-- Which parameters make a skewed distribution. -/
theorem skewed?_eq_ok_iff :
    skewed? lo hi skewness width = .ok d ↔
      lo < hi ∧ 0 < width ∧ d = .skewed lo hi ⟨skewness, width⟩ := by
  simp only [skewed?, Except.bind_eq_ok_iff, checkRange_eq_ok_iff, skewTransform_eq_ok_iff]
  constructor
  · rintro ⟨-, h, transform, ⟨hwidth, rfl⟩, hd⟩
    exact ⟨h, hwidth, (Except.ok.inj hd).symm⟩
  · rintro ⟨h, hwidth, rfl⟩
    exact ⟨(), h, ⟨skewness, width⟩, ⟨hwidth, rfl⟩, rfl⟩

/-- Which parameters make a triangular distribution. -/
theorem triangular?_eq_ok_iff {mode : K} :
    triangular? lo mode hi = .ok d ↔
      lo < hi ∧ mode ∈ Set.Icc lo hi ∧ d = .triangular ⟨lo, mode, hi⟩ := by
  simp only [triangular?, Except.bind_eq_ok_iff, checkMode_eq_ok_iff]
  constructor
  · rintro ⟨-, ⟨h, hmode⟩, hd⟩
    exact ⟨h, hmode, (Except.ok.inj hd).symm⟩
  · rintro ⟨h, hmode, rfl⟩
    exact ⟨(), ⟨h, hmode⟩, rfl⟩

variable [IsStrictOrderedRing K]

/-- A number of bins is a natural number of at least two. -/
theorem binCount_eq_ok_iff : binCount bins = .ok n ↔ 2 ≤ n ∧ bins = n := by
  have htwo : (2.0 : K) = 2 := by norm_num
  simp only [binCount, htwo, Scalar.isFinite_field, Bool.true_and, Bool.and_eq_true,
    decide_eq_true_eq, Scalar.isWhole_field, Scalar.count_field]
  constructor
  · intro h
    split at h
    · rename_i hbins
      obtain ⟨hle, hwhole⟩ := hbins
      obtain rfl := Except.ok.inj h
      refine ⟨?_, hwhole.symm⟩
      rw [← hwhole] at hle
      exact_mod_cast hle
    · cases h
  · rintro ⟨hn, rfl⟩
    have hle : (2 : K) ≤ n := by exact_mod_cast hn
    simp [hle]

/-- Which bins and bounds make a uniform distribution on a grid. -/
theorem discreteUniform?_eq_ok_iff :
    discreteUniform? bins lo hi = .ok d ↔
      ∃ n : ℕ, 2 ≤ n ∧ bins = n ∧ lo < hi ∧
        d = .discreteUniform n lo hi (Masses.uniform n lo hi) := by
  simp only [discreteUniform?, Except.bind_eq_ok_iff, Failure.lift_eq_ok_iff, binCount_eq_ok_iff,
    checkRange_eq_ok_iff, allocate_field, Except.ok_bind]
  constructor
  · rintro ⟨n, ⟨hn, hbins⟩, -, h, hd⟩
    exact ⟨n, hn, hbins, h, (Except.ok.inj hd).symm⟩
  · rintro ⟨n, hn, hbins, h, rfl⟩
    exact ⟨n, ⟨hn, hbins⟩, (), h, rfl⟩

/-- Which parameters make a skewed distribution on a grid. -/
theorem discreteSkewedOf?_eq_ok_iff {Φ quantile : K → K} :
    discreteSkewedOf? Φ quantile bins lo hi skewness width = .ok d ↔
      ∃ n : ℕ, 2 ≤ n ∧ bins = n ∧ lo < hi ∧ 0 < width ∧
        d = .discreteSkewed (SkewTransform.masses Φ quantile ⟨skewness, width⟩ n lo hi) := by
  simp only [discreteSkewedOf?, Except.bind_eq_ok_iff, Failure.lift_eq_ok_iff, binCount_eq_ok_iff,
    checkRange_eq_ok_iff, skewTransform_eq_ok_iff, allocate_field, Except.ok_bind]
  constructor
  · rintro ⟨n, ⟨hn, hbins⟩, -, h, transform, ⟨hwidth, rfl⟩, hd⟩
    exact ⟨n, hn, hbins, h, hwidth, (Except.ok.inj hd).symm⟩
  · rintro ⟨n, hn, hbins, h, hwidth, rfl⟩
    exact ⟨n, ⟨hn, hbins⟩, (), h, ⟨skewness, width⟩, ⟨hwidth, rfl⟩, rfl⟩

end Distribution

end EnsembleDesk

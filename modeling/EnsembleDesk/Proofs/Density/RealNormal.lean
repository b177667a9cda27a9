import Mathlib.Analysis.SpecialFunctions.Gamma.Basic
import Mathlib.Probability.CDF
import Mathlib.Probability.Distributions.Gaussian.Real
import EnsembleDesk.Proofs.Number.OrderedField
/-!
# The normal distribution over the real numbers

Statements about skewed transformations are about any functions in the place of the normal's
distribution function and quantile function. Over the real numbers there are the functions
themselves: `RealNormal.cdf` is the distribution function of the standard Gaussian measure, and
`RealNormal.quantile` the place where it reaches a level. Both are monotone, the second one where it
is defined.
-/

namespace EnsembleDesk

namespace RealNormal

open ProbabilityTheory Filter

/-- The distribution function of the standard normal. -/
noncomputable def cdf (x : ℝ) : ℝ := ProbabilityTheory.cdf (gaussianReal 0 1) x

/-- The quantile function of the standard normal. -/
noncomputable def quantile (p : ℝ) : ℝ := sInf {x | p ≤ cdf x}

theorem monotone_cdf : Monotone cdf := ProbabilityTheory.monotone_cdf _

theorem cdf_mem_Icc (x : ℝ) : cdf x ∈ Set.Icc 0 1 := ⟨cdf_nonneg _ x, cdf_le_one _ x⟩

theorem monotoneOn_quantile : MonotoneOn quantile (Set.Ioo 0 1) := by
  intro p hp q hq hpq
  -- some number is below the level `p`, and some number reaches the level `q`
  obtain ⟨low, hlow⟩ := ((tendsto_cdf_atBot (gaussianReal 0 1)).eventually_lt_const hp.1).exists
  obtain ⟨high, hhigh⟩ := ((tendsto_cdf_atTop (gaussianReal 0 1)).eventually_const_lt hq.2).exists
  have hbounded : BddBelow {x | p ≤ cdf x} := by
    refine ⟨low, fun x hx => ?_⟩
    by_contra hlt
    exact absurd (hx.trans (monotone_cdf (not_le.1 hlt).le)) (not_le.2 hlow)
  exact csInf_le_csInf hbounded ⟨high, hhigh.le⟩ fun x hx => hpq.trans hx

end RealNormal

/-- The real functions. There is no infinite real number, and zero stands in its place. -/
noncomputable instance : ElementaryFunctions ℝ where
  exp := Real.exp
  log := Real.log
  sqrt := Real.sqrt
  pow x y := x ^ y
  erfc x := 2 * (1 - RealNormal.cdf (√2 * x))
  logGamma x := Real.log (Real.Gamma x)
  infinity := 0

end EnsembleDesk

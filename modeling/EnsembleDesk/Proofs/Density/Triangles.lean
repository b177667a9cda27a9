import Mathlib.Order.Monotone.Union
import EnsembleDesk.Proofs.Density.ExactFamilies
import EnsembleDesk.Proofs.Density.RealNormal
import EnsembleDesk.Proofs.Number.OrderedField
/-!
# Triangular distributions over the real numbers

The area under a triangle is told by two quadratic pieces that meet at the mode. Seen from its own
end of the range each of them is the same function of the distance to that end (`rampMass`), which a
square root inverts (`rampReach`). On the closed part of the range below the mode and on the one
above it the distribution function and the quantile function are these two, whichever branch
computes them, and the parts share the mode: so it does not matter on which side of a branch the
mode is, nor whether one of the parts is the mode alone.

## Main results

* `Triangle.quantile_inverts_cdf`: the quantile function and the distribution function of a triangle
  invert each other, and nothing is divided by zero.
-/

namespace EnsembleDesk

open Set

/-! ### One side of a triangle -/

section Ramps

/-- The mass of a density that rises in a straight line over a length `side` up to the peak of a
triangle as wide as `span`, as far as the distance `u`. -/
noncomputable def rampMass (span side u : ℝ) : ℝ := u ^ 2 / (span * side)

/-- The distance at which the mass is `q`. -/
noncomputable def rampReach (span side q : ℝ) : ℝ := √(q * span * side)

variable {span side : ℝ}

/-- The beginning of a side has no mass in front of it. -/
theorem rampMass_zero : rampMass span side 0 = 0 := by
  simp [rampMass]

/-- The mass of a side is its share of the range. -/
theorem rampMass_side : rampMass span side side = side / span := by
  unfold rampMass
  rcases eq_or_ne side 0 with rfl | h
  · simp
  · rw [sq, mul_div_mul_right _ _ h]

/-- The mass grows along a side. -/
theorem monotoneOn_rampMass (hspan : 0 ≤ span) (hside : 0 ≤ side) :
    MonotoneOn (rampMass span side) (Ici 0) := by
  intro u hu v _ huv
  have hu : 0 ≤ u := hu
  unfold rampMass
  gcongr

/-- A part of a side has at most the mass of the side. -/
theorem rampMass_mem_Icc (hspan : 0 ≤ span) {u : ℝ} (hu : u ∈ Icc 0 side) :
    rampMass span side u ∈ Icc 0 (side / span) := by
  have hside : 0 ≤ side := hu.1.trans hu.2
  refine ⟨?_, ?_⟩
  · unfold rampMass
    positivity
  · rw [← rampMass_side]
    exact monotoneOn_rampMass hspan hside hu.1 hside hu.2

/-- A mass that a side has is reached within the side. -/
theorem rampReach_mem_Icc (hspan : 0 < span) (hside : 0 ≤ side) {q : ℝ} (hq : q ≤ side / span) :
    rampReach span side q ∈ Icc 0 side := by
  refine ⟨Real.sqrt_nonneg _, Real.sqrt_le_iff.2 ⟨hside, ?_⟩⟩
  rw [sq]
  exact mul_le_mul_of_nonneg_right ((le_div_iff₀ hspan).1 hq) hside

/-- On a side without length no mass but zero is reached, and none but zero is asked for. -/
theorem rampMass_rampReach (hspan : 0 < span) (hside : 0 ≤ side) {q : ℝ}
    (hq : q ∈ Icc 0 (side / span)) : rampMass span side (rampReach span side q) = q := by
  have hnonneg : 0 ≤ q * span * side := mul_nonneg (mul_nonneg hq.1 hspan.le) hside
  unfold rampMass rampReach
  rw [Real.sq_sqrt hnonneg]
  rcases hside.eq_or_lt with rfl | hpos
  · simpa using hq.1.antisymm (by simpa using hq.2)
  · field_simp

/-- The reach of the mass up to a place is that place. -/
theorem rampReach_rampMass (hspan : 0 < span) {u : ℝ} (hu : u ∈ Icc 0 side) :
    rampReach span side (rampMass span side u) = u := by
  have hsquare : rampMass span side u * span * side = u ^ 2 := by
    unfold rampMass
    rcases (hu.1.trans hu.2).eq_or_lt with rfl | hpos
    · simp [hu.2.antisymm hu.1]
    · field_simp
  rw [rampReach, hsquare, Real.sqrt_sq hu.1]

end Ramps

namespace Triangle

/-- The mode is in a range that is not empty. It may be an end of the range. -/
structure Proper (t : Triangle ℝ) : Prop where
  /-- The range is not empty. -/
  min_lt_max : t.min < t.max
  /-- The mode is not below the range. -/
  min_le_mode : t.min ≤ t.mode
  /-- The mode is not above the range. -/
  mode_le_max : t.mode ≤ t.max

/-- A triangle to compute with where a division by zero shows. -/
def guarded (t : Triangle ℝ) : Triangle (Guarded ℝ) := ⟨.value t.min, .value t.mode, .value t.max⟩

/-- Computed where a division by zero shows, the functions of a triangle have the values that they
have anyway. The probability of the part below the mode is listed, too, because the quantile
function computes it for a comparison alone. -/
structure DividesByNoZero (t : Triangle ℝ) : Prop where
  /-- No division by zero in the probability of the part below the mode. -/
  peakMass_eq : t.guarded.peakMass = .value t.peakMass
  /-- No division by zero in the density. -/
  pdf_eq : ∀ x, t.guarded.pdf (.value x) = .value (t.pdf x)
  /-- No division by zero in the distribution function. -/
  cdf_eq : ∀ x, t.guarded.cdf (.value x) = .value (t.cdf x)
  /-- No division by zero in the quantile function, and no square root of a negative number. -/
  quantile_eq : ∀ p, t.guarded.quantile Guarded.sqrt (.value p) = .value (t.quantile Real.sqrt p)

namespace Proper

variable {t : Triangle ℝ} (h : t.Proper)
include h

/-- The range of a proper triangle is not empty. -/
theorem span_pos : 0 < t.max - t.min := sub_pos.2 h.min_lt_max

/-! ### Divisions -/

/-- The mass below the mode divides by no zero. -/
theorem guarded_peakMass : t.guarded.peakMass = .value t.peakMass :=
  Guarded.value_div h.span_pos.ne'

/-- The density divides by no zero. -/
theorem guarded_pdf (x : ℝ) : t.guarded.pdf (.value x) = .value (t.pdf x) := by
  have hspan := h.span_pos.ne'
  unfold pdf guarded
  simp only [Guarded.value_lt, Guarded.value_sub, Guarded.value_mul, Guarded.ofScientific_eq]
  split_ifs with hout hbelow habove
  · rfl
  · -- the branch below the mode is taken only if there are numbers below the mode
    have hside : t.mode - t.min ≠ 0 := by
      push Not at hout
      exact (sub_pos.2 (hout.1.trans_lt hbelow)).ne'
    exact Guarded.value_div (mul_ne_zero hspan hside)
  · have hside : t.max - t.mode ≠ 0 := by
      push Not at hout
      exact (sub_pos.2 (habove.trans_le hout.2)).ne'
    exact Guarded.value_div (mul_ne_zero hspan hside)
  · exact Guarded.value_div hspan

/-- The distribution function divides by no zero. -/
theorem guarded_cdf (x : ℝ) : t.guarded.cdf (.value x) = .value (t.cdf x) := by
  have hspan := h.span_pos.ne'
  unfold cdf guarded
  simp only [Guarded.value_le, Guarded.value_sub, Guarded.value_mul, Guarded.square_value,
    Guarded.ofScientific_eq]
  split_ifs with hlow hhigh hbelow
  · rfl
  · rfl
  · have hside : t.mode - t.min ≠ 0 := (sub_pos.2 ((not_le.1 hlow).trans_le hbelow)).ne'
    exact Guarded.value_div (mul_ne_zero hspan hside)
  · have hside : t.max - t.mode ≠ 0 :=
      (sub_pos.2 ((not_le.1 hbelow).trans (not_le.1 hhigh))).ne'
    rw [Guarded.value_div (mul_ne_zero hspan hside), Guarded.value_sub]

/-- The quantile function divides by no zero. -/
theorem guarded_quantile (p : ℝ) :
    t.guarded.quantile Guarded.sqrt (.value p) = .value (t.quantile Real.sqrt p) := by
  have hclamped : Scalar.clamp 0.0 1.0 p ∈ Icc (0 : ℝ) 1 := by
    rw [Scalar.zero_field, Scalar.one_field]
    exact Scalar.clamp_mem_Icc zero_le_one p
  have hlow : 0 ≤ t.mode - t.min := sub_nonneg.2 h.min_le_mode
  have hhigh : 0 ≤ t.max - t.mode := sub_nonneg.2 h.mode_le_max
  have hspan := h.span_pos.le
  unfold quantile
  simp only [h.guarded_peakMass, Guarded.ofScientific_eq, Guarded.clamp_value]
  simp only [guarded, Guarded.value_lt, Guarded.value_sub, Guarded.value_mul]
  generalize Scalar.clamp 0.0 1.0 p = q at hclamped
  split_ifs
  · rw [Guarded.sqrt_value (mul_nonneg (mul_nonneg hclamped.1 hspan) hlow), Guarded.value_add]
  · have hrest : 0 ≤ 1.0 - q := by
      rw [Scalar.one_field]
      exact sub_nonneg.2 hclamped.2
    rw [Guarded.sqrt_value (mul_nonneg (mul_nonneg hrest hspan) hhigh), Guarded.value_sub]

/-- No function of a proper triangle divides by zero, not even one whose mode is an end of the
range. -/
theorem dividesByNoZero : t.DividesByNoZero :=
  ⟨h.guarded_peakMass, h.guarded_pdf, h.guarded_cdf, h.guarded_quantile⟩

/-! ### The sides of the distribution function -/

/-- The mass above the mode is the share of the upper side. -/
theorem one_sub_peakMass : 1 - t.peakMass = (t.max - t.mode) / (t.max - t.min) := by
  have hspan := h.span_pos.ne'
  unfold peakMass
  field_simp
  ring

/-- Up to the mode the distribution function is the mass of the lower side. -/
theorem cdf_of_le_mode {x : ℝ} (hx : x ∈ Icc t.min t.mode) :
    t.cdf x = rampMass (t.max - t.min) (t.mode - t.min) (x - t.min) := by
  unfold cdf
  split_ifs with hlow hhigh hbelow
  · rw [hlow.antisymm hx.1, sub_self, rampMass_zero, Scalar.zero_field]
  · -- the mode is the upper bound
    have hmode : t.mode = t.max := h.mode_le_max.antisymm (hhigh.trans hx.2)
    have hmax : x = t.max := (hx.2.trans h.mode_le_max).antisymm hhigh
    rw [hmax, hmode, rampMass_side, div_self h.span_pos.ne', Scalar.one_field]
  · rw [Scalar.square_field, rampMass]
  · exact absurd hx.2 hbelow

/-- From the mode on the distribution function is one less the mass of the upper side. -/
theorem cdf_of_mode_le {x : ℝ} (hx : x ∈ Icc t.mode t.max) :
    t.cdf x = 1 - rampMass (t.max - t.min) (t.max - t.mode) (t.max - x) := by
  rcases hx.1.eq_or_lt with rfl | hmode
  · rw [h.cdf_of_le_mode ⟨h.min_le_mode, le_rfl⟩, rampMass_side, rampMass_side,
      ← h.one_sub_peakMass, peakMass, sub_sub_cancel]
  · unfold cdf
    split_ifs with hlow hhigh hbelow
    · exact absurd (h.min_le_mode.trans_lt hmode) hlow.not_gt
    · rw [hx.2.antisymm hhigh, sub_self, rampMass_zero, sub_zero, Scalar.one_field]
    · exact absurd hbelow hmode.not_ge
    · rw [Scalar.square_field, Scalar.one_field, rampMass]

/-- The distribution function is zero at the lower end. -/
theorem cdf_min : t.cdf t.min = 0 := by
  rw [h.cdf_of_le_mode ⟨le_rfl, h.min_le_mode⟩, sub_self, rampMass_zero]

/-- The distribution function is one at the upper end. -/
theorem cdf_max : t.cdf t.max = 1 := by
  rw [h.cdf_of_mode_le ⟨h.mode_le_max, le_rfl⟩, sub_self, rampMass_zero, sub_zero]

/-- One piece after the other: no mass, the two sides, all of it. -/
theorem monotone_cdf : Monotone t.cdf := by
  have hspan := h.span_pos.le
  have hlow : 0 ≤ t.mode - t.min := sub_nonneg.2 h.min_le_mode
  have hhigh : 0 ≤ t.max - t.mode := sub_nonneg.2 h.mode_le_max
  have hbefore : MonotoneOn t.cdf (Iic t.min) := by
    intro x hx y hy _
    have hx : x ≤ t.min := hx
    have hy : y ≤ t.min := hy
    rw [cdf, cdf, if_pos hx, if_pos hy]
  have hbelow : MonotoneOn t.cdf (Icc t.min t.mode) := by
    intro x hx y hy hxy
    rw [h.cdf_of_le_mode hx, h.cdf_of_le_mode hy]
    exact monotoneOn_rampMass hspan hlow (sub_nonneg.2 hx.1) (sub_nonneg.2 hy.1) (by linarith)
  have habove : MonotoneOn t.cdf (Icc t.mode t.max) := by
    intro x hx y hy hxy
    rw [h.cdf_of_mode_le hx, h.cdf_of_mode_le hy]
    have hle := monotoneOn_rampMass hspan hhigh (sub_nonneg.2 hy.2) (sub_nonneg.2 hx.2)
      (sub_le_sub_left hxy _)
    linarith
  have hbeyond : MonotoneOn t.cdf (Ici t.max) := by
    intro x hx y hy _
    have hx : t.max ≤ x := hx
    have hy : t.max ≤ y := hy
    rw [cdf, cdf, if_neg (h.min_lt_max.trans_le hx).not_ge,
      if_neg (h.min_lt_max.trans_le hy).not_ge, if_pos hx, if_pos hy]
  -- neighbouring pieces have an end in common
  have hleft : MonotoneOn t.cdf (Iic t.mode) := by
    rw [← Iic_union_Icc_eq_Iic h.min_le_mode]
    exact hbefore.union_right hbelow isGreatest_Iic (isLeast_Icc h.min_le_mode)
  have hright : MonotoneOn t.cdf (Ici t.mode) := by
    rw [← Icc_union_Ici_eq_Ici h.mode_le_max]
    exact habove.union_right hbeyond (isGreatest_Icc h.mode_le_max) isLeast_Ici
  exact hleft.Iic_union_Ici hright

/-! ### The sides of the quantile function -/

/-- The mass below the mode is a probability. -/
theorem peakMass_mem_Icc : t.peakMass ∈ Icc (0 : ℝ) 1 := by
  have hrest : 0 ≤ (t.max - t.mode) / (t.max - t.min) :=
    div_nonneg (sub_nonneg.2 h.mode_le_max) h.span_pos.le
  rw [← h.one_sub_peakMass] at hrest
  exact ⟨div_nonneg (sub_nonneg.2 h.min_le_mode) h.span_pos.le, sub_nonneg.1 hrest⟩

/-- Above the mass below the mode the quantile is reached from the upper end. -/
theorem quantile_of_peakMass_le {p : ℝ} (hp : p ∈ Icc t.peakMass 1) :
    t.quantile Real.sqrt p =
      t.max - rampReach (t.max - t.min) (t.max - t.mode) (1 - p) := by
  have hlevel : p ∈ Icc (0 : ℝ) 1 := ⟨h.peakMass_mem_Icc.1.trans hp.1, hp.2⟩
  unfold quantile
  simp only [Scalar.zero_field, Scalar.one_field, Scalar.clamp_of_mem hlevel,
    if_neg (not_lt.2 hp.1), rampReach]

/-- Up to the mass below the mode the quantile is reached from the lower end. -/
theorem quantile_of_le_peakMass {p : ℝ} (hp : p ∈ Icc 0 t.peakMass) :
    t.quantile Real.sqrt p = t.min + rampReach (t.max - t.min) (t.mode - t.min) p := by
  have hlevel : p ∈ Icc (0 : ℝ) 1 := ⟨hp.1, hp.2.trans h.peakMass_mem_Icc.2⟩
  rcases hp.2.eq_or_lt with rfl | hlt
  · -- at the mode the branch from the other end is taken
    have hlow : rampReach (t.max - t.min) (t.mode - t.min) t.peakMass = t.mode - t.min := by
      rw [peakMass, ← rampMass_side]
      exact rampReach_rampMass h.span_pos ⟨sub_nonneg.2 h.min_le_mode, le_rfl⟩
    have hhigh : rampReach (t.max - t.min) (t.max - t.mode) (1 - t.peakMass) = t.max - t.mode := by
      rw [h.one_sub_peakMass, ← rampMass_side]
      exact rampReach_rampMass h.span_pos ⟨sub_nonneg.2 h.mode_le_max, le_rfl⟩
    rw [h.quantile_of_peakMass_le ⟨le_rfl, hlevel.2⟩, hlow, hhigh]
    ring
  · unfold quantile
    simp only [Scalar.zero_field, Scalar.one_field, Scalar.clamp_of_mem hlevel, if_pos hlt,
      rampReach]

/-! ### Inverses -/

/-- The quantile of a level is a number of the range at which the distribution function has that
level. -/
theorem cdf_quantile {p : ℝ} (hp : p ∈ Icc (0 : ℝ) 1) :
    t.quantile Real.sqrt p ∈ Icc t.min t.max ∧ t.cdf (t.quantile Real.sqrt p) = p := by
  have hspan := h.span_pos
  -- a level belongs to one side of the mode, and is inverted on the ramp of that side
  rcases le_total p t.peakMass with hlevel | hlevel
  · have hlow : 0 ≤ t.mode - t.min := sub_nonneg.2 h.min_le_mode
    have hreach := rampReach_mem_Icc hspan hlow hlevel
    have hmem : t.min + rampReach (t.max - t.min) (t.mode - t.min) p ∈ Icc t.min t.mode :=
      ⟨by linarith [hreach.1], by linarith [hreach.2]⟩
    rw [h.quantile_of_le_peakMass ⟨hp.1, hlevel⟩]
    refine ⟨⟨hmem.1, hmem.2.trans h.mode_le_max⟩, ?_⟩
    rw [h.cdf_of_le_mode hmem, add_sub_cancel_left, rampMass_rampReach hspan hlow ⟨hp.1, hlevel⟩]
  · have hhigh : 0 ≤ t.max - t.mode := sub_nonneg.2 h.mode_le_max
    have hrest : 1 - p ∈ Icc 0 ((t.max - t.mode) / (t.max - t.min)) := by
      rw [← h.one_sub_peakMass]
      exact ⟨sub_nonneg.2 hp.2, sub_le_sub_left hlevel 1⟩
    have hreach := rampReach_mem_Icc hspan hhigh hrest.2
    have hmem : t.max - rampReach (t.max - t.min) (t.max - t.mode) (1 - p) ∈
        Icc t.mode t.max :=
      ⟨by linarith [hreach.2], by linarith [hreach.1]⟩
    rw [h.quantile_of_peakMass_le ⟨hlevel, hp.2⟩]
    refine ⟨⟨h.min_le_mode.trans hmem.1, hmem.2⟩, ?_⟩
    rw [h.cdf_of_mode_le hmem, sub_sub_cancel, rampMass_rampReach hspan hhigh hrest,
      sub_sub_cancel]

/-- The quantile function undoes the distribution function on the range. -/
theorem quantile_cdf {x : ℝ} (hx : x ∈ Icc t.min t.max) :
    t.quantile Real.sqrt (t.cdf x) = x := by
  have hspan := h.span_pos
  rcases le_total x t.mode with hmode | hmode
  · have hmem : x - t.min ∈ Icc 0 (t.mode - t.min) :=
      ⟨sub_nonneg.2 hx.1, sub_le_sub_right hmode _⟩
    rw [h.cdf_of_le_mode ⟨hx.1, hmode⟩,
      h.quantile_of_le_peakMass (rampMass_mem_Icc hspan.le hmem), rampReach_rampMass hspan hmem,
      add_sub_cancel]
  · have hmem : t.max - x ∈ Icc 0 (t.max - t.mode) :=
      ⟨sub_nonneg.2 hx.2, sub_le_sub_left hmode _⟩
    have hmass := rampMass_mem_Icc hspan.le hmem
    rw [← h.one_sub_peakMass] at hmass
    rw [h.cdf_of_mode_le ⟨hmode, hx.2⟩,
      h.quantile_of_peakMass_le ⟨by linarith [hmass.2], by linarith [hmass.1]⟩, sub_sub_cancel,
      rampReach_rampMass hspan hmem, sub_sub_cancel]

end Proper

/-- The quantile function and the distribution function of a triangle invert each other, and nothing
is divided by zero, also where the mode is an end of the range. -/
theorem quantile_inverts_cdf {t : Triangle ℝ} (h : t.Proper) :
    Distribution.triangular? t.min t.mode t.max = .ok (.triangular t) ∧ t.DividesByNoZero ∧
      Monotone t.cdf ∧ t.cdf t.min = 0 ∧ t.cdf t.max = 1 ∧
      (∀ p ∈ Icc 0 1, t.quantile Real.sqrt p ∈ Icc t.min t.max ∧
        t.cdf (t.quantile Real.sqrt p) = p) ∧
      ∀ x ∈ Icc t.min t.max, t.quantile Real.sqrt (t.cdf x) = x := by
  refine ⟨?_, h.dividesByNoZero, h.monotone_cdf, h.cdf_min, h.cdf_max,
    fun p hp => h.cdf_quantile hp, fun x hx => h.quantile_cdf hx⟩
  exact Distribution.triangular?_eq_ok_iff.2 ⟨h.min_lt_max, ⟨h.min_le_mode, h.mode_le_max⟩, rfl⟩

/-- A triangle with its mode at the lower end, at the level one quarter and in the middle. -/
theorem quantile_inverts_cdf_modeAtMin :
    ∃ t : Triangle ℝ, t = ⟨0, 0, 1⟩ ∧ t.Proper ∧ t.DividesByNoZero ∧ Monotone t.cdf ∧
      t.cdf 0 = 0 ∧ t.cdf 1 = 1 ∧ t.cdf (t.quantile Real.sqrt (1 / 4)) = 1 / 4 ∧
      t.quantile Real.sqrt (t.cdf (1 / 2)) = 1 / 2 := by
  have h : Proper ⟨0, 0, 1⟩ := ⟨by norm_num, by norm_num, by norm_num⟩
  obtain ⟨-, hdivisions, hmono, hmin, hmax, hlevels, hnumbers⟩ := quantile_inverts_cdf h
  refine ⟨_, rfl, h, hdivisions, hmono, hmin, hmax, (hlevels (1 / 4) ?_).2, hnumbers (1 / 2) ?_⟩
  · norm_num
  · norm_num

end Triangle

end EnsembleDesk

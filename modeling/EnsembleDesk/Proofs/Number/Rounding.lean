import EnsembleDesk.Proofs.Number.MachineFloat
/-!
# Rounding keeps the order

`Binary64.exact rank` is the exact value of a finite rank as a rational number, and
`Binary64.nearest x` the rank that a rational number is rounded to. Larger ranks have larger values,
and a larger number is not rounded to a smaller rank: between two powers of two the numbers are
rounded on one grid, and where the exponent grows, the largest mantissa of the smaller exponent is
not above the smallest one of the larger exponent.

So that a number stays finite through a computation can be seen from the largest value that it can
have there, which is one evaluation.

## Main results

* `Binary64.exact_mono`: the order of ranks is that of their values;
* `Binary64.nearest_mono`: rounding to the nearest rank is monotone;
* `Binary64.nearest_exact`: the value of a rank is rounded to the rank.
-/

namespace EnsembleDesk

/-! ### Integer exponents -/

/-- A power whose exponent is not negative. -/
theorem zpow_eq_pow_toNat {e : Int} (x : ℚ) (h : 0 ≤ e) : x ^ e = x ^ e.toNat := by
  rw [← zpow_natCast, Int.toNat_of_nonneg h]

/-- A power with a negative exponent. -/
theorem zpow_eq_inv_pow_toNat {e : Int} (x : ℚ) (h : ¬ 0 ≤ e) : x ^ e = (x ^ (-e).toNat)⁻¹ := by
  rw [← zpow_natCast, Int.toNat_of_nonneg (by omega), zpow_neg, inv_inv]

namespace Binary64

/-! ### Exact values -/

/-- The exact value of a finite rank. -/
def exact (rank : Nat) : ℚ := mantissa rank * 2 ^ scale rank

/-- A quotient of natural numbers in units of a power of two. -/
theorem div_two_zpow_eq (num den : Nat) (e : Int) :
    (if 0 ≤ e then ((num : ℚ) / (den * Nat.pow 2 e.toNat : Nat))
      else (num * Nat.pow 2 (-e).toNat : Nat) / den) = (num : ℚ) / den / 2 ^ e := by
  split
  · rename_i he
    rw [zpow_eq_pow_toNat 2 he, Nat.pow_eq, Nat.cast_mul, Nat.cast_pow, Nat.cast_ofNat, div_div]
  · rename_i he
    rw [zpow_eq_inv_pow_toNat 2 he, div_inv_eq_mul, div_mul_eq_mul_div, Nat.pow_eq, Nat.cast_mul,
      Nat.cast_pow, Nat.cast_ofNat]

/-- The exact value is the quotient of the magnitude. -/
theorem exact_eq (rank : Nat) :
    exact rank = ((magnitude rank).1 : ℚ) / (magnitude rank).2 := by
  rw [exact, magnitude]
  split
  · rename_i he
    rw [zpow_eq_pow_toNat 2 he, Nat.pow_eq, Nat.cast_mul, Nat.cast_pow, Nat.cast_ofNat,
      Nat.cast_one, div_one]
  · rename_i he
    rw [zpow_eq_inv_pow_toNat 2 he, Nat.pow_eq, Nat.cast_pow, Nat.cast_ofNat, div_eq_mul_inv]

/-- No magnitude divides by zero. -/
theorem magnitude_pos (rank : Nat) : 0 < (magnitude rank).2 := by
  rw [magnitude]
  split
  · exact Nat.one_pos
  · exact Nat.pow_pos (by decide)

/-- The exact value of a rank is not negative. -/
theorem exact_nonneg (rank : Nat) : 0 ≤ exact rank := by
  unfold exact
  positivity

/-- A larger rank has a larger exponent, or the same exponent and a larger mantissa. -/
theorem exact_mono {r s : Nat} (h : r ≤ s) : exact r ≤ exact s := by
  have hr := rank_eq r
  have hs := rank_eq s
  have hrlt := mantissa_lt r
  have hslt := mantissa_lt s
  have hrscale := scale_eq_or_le_mantissa r
  have hsscale := scale_eq_or_le_mantissa s
  rcases lt_or_ge (scale r) (scale s) with hscale | hscale
  · -- the mantissa of the larger exponent is full, and the other one less than twice as large
    have hfull : (4503599627370496 : ℚ) ≤ mantissa s := by
      have : 4503599627370496 ≤ mantissa s := by omega
      exact_mod_cast this
    have hless : (mantissa r : ℚ) ≤ 2 * mantissa s := by
      have : mantissa r ≤ 2 * mantissa s := by omega
      exact_mod_cast this
    calc exact r ≤ 2 * mantissa s * 2 ^ scale r := by unfold exact; gcongr
      _ = mantissa s * 2 ^ (scale r + 1) := by
        rw [zpow_add_one₀ (by norm_num)]
        ring
      _ ≤ mantissa s * 2 ^ scale s := by
        gcongr
        · norm_num
        · omega
  · have hsame : scale r = scale s := by omega
    have hmantissa : mantissa r ≤ mantissa s := by omega
    unfold exact
    rw [hsame]
    gcongr

/-! ### Rounding to integers -/

/-- Whether the remainder of a quotient takes it to the next integer. -/
def RoundsUp (num den : Nat) : Prop :=
  den < 2 * (num % den) ∨ 2 * (num % den) = den ∧ num / den % 2 = 1

/-- A quotient is rounded to one of the two integers around it. -/
theorem roundQuotient_cases (num den : Nat) :
    (RoundsUp num den ∧ roundQuotient num den = num / den + 1) ∨
      (¬ RoundsUp num den ∧ roundQuotient num den = num / den) := by
  simp only [roundQuotient, RoundsUp]
  split
  · exact .inr ⟨by omega, rfl⟩
  · split
    · exact .inl ⟨by omega, rfl⟩
    · split
      · exact .inr ⟨by omega, rfl⟩
      · exact .inl ⟨by omega, rfl⟩

/-- A quotient is not rounded below an integer that it reaches. -/
theorem le_roundQuotient {num den n : Nat} (hden : 0 < den) (h : n * den ≤ num) :
    n ≤ roundQuotient num den := by
  have hfloor : n ≤ num / den := (Nat.le_div_iff_mul_le hden).2 h
  rcases roundQuotient_cases num den with ⟨-, hround⟩ | ⟨-, hround⟩ <;> omega

/-- A quotient is not rounded above an integer that it does not exceed. -/
theorem roundQuotient_le {num den n : Nat} (hden : 0 < den) (h : num ≤ n * den) :
    roundQuotient num den ≤ n := by
  have hfloor : num / den ≤ n := Nat.div_le_of_le_mul (by rwa [Nat.mul_comm])
  rcases roundQuotient_cases num den with ⟨hup, hround⟩ | ⟨-, hround⟩
  · -- what is left over takes the quotient above its integer part
    have hnum := Nat.div_add_mod num den
    have hne : num / den ≠ n := by
      rintro rfl
      rw [Nat.mul_comm] at hnum
      rcases hup with hup | hup <;> omega
    omega
  · omega

/-- Rounding to the nearest integer is monotone. -/
theorem roundQuotient_mono {num den num' den' : Nat} (hden : 0 < den) (hden' : 0 < den')
    (h : num * den' ≤ num' * den) : roundQuotient num den ≤ roundQuotient num' den' := by
  have hnum := Nat.div_add_mod num den
  have hnum' := Nat.div_add_mod num' den'
  have hfloor : num / den ≤ num' / den' := by
    rw [Nat.le_div_iff_mul_le hden']
    refine Nat.le_of_mul_le_mul_right ?_ hden
    calc num / den * den' * den = num / den * den * den' := by ring
      _ ≤ num * den' := Nat.mul_le_mul_right _ (Nat.div_mul_le_self num den)
      _ ≤ num' * den := h
  rcases Nat.lt_or_eq_of_le hfloor with hlt | heq
  · -- the integers around the quotients are in order
    have hnext : num ≤ (num / den + 1) * den := by
      have := Nat.mod_lt num hden
      rw [Nat.add_mul, Nat.one_mul, Nat.mul_comm]
      omega
    calc roundQuotient num den ≤ num / den + 1 := roundQuotient_le hden hnext
      _ ≤ num' / den' := hlt
      _ ≤ roundQuotient num' den' := le_roundQuotient hden' (Nat.div_mul_le_self num' den')
  · -- with the same integer part, the remainders are in order
    have hrest : num % den * den' ≤ num' % den' * den := by
      rw [← hnum, ← hnum', ← heq, Nat.add_mul, Nat.add_mul,
        show den' * (num / den) * den = den * (num / den) * den' by ring] at h
      exact Nat.le_of_add_le_add_left h
    have hup : RoundsUp num den → RoundsUp num' den' := by
      rintro (habove | ⟨hhalf, hodd⟩)
      · refine .inl (Nat.lt_of_mul_lt_mul_left (a := den) ?_)
        calc den * den' < 2 * (num % den) * den' := Nat.mul_lt_mul_of_pos_right habove hden'
          _ = 2 * (num % den * den') := Nat.mul_assoc _ _ _
          _ ≤ 2 * (num' % den' * den) := Nat.mul_le_mul_left 2 hrest
          _ = den * (2 * (num' % den')) := by ring
      · have hle : den' ≤ 2 * (num' % den') := by
          refine Nat.le_of_mul_le_mul_left ?_ hden
          calc den * den' = 2 * (num % den) * den' := by rw [hhalf]
            _ = 2 * (num % den * den') := Nat.mul_assoc _ _ _
            _ ≤ 2 * (num' % den' * den) := Nat.mul_le_mul_left 2 hrest
            _ = den * (2 * (num' % den')) := by ring
        rcases Nat.lt_or_eq_of_le hle with hlt | hsame
        · exact .inl hlt
        · exact .inr ⟨hsame.symm, heq ▸ hodd⟩
    rcases roundQuotient_cases num den with ⟨hfirst, hround⟩ | ⟨-, hround⟩
    · rcases roundQuotient_cases num' den' with ⟨-, hround'⟩ | ⟨hnot, -⟩
      · omega
      · exact absurd (hup hfirst) hnot
    · rcases roundQuotient_cases num' den' with ⟨-, hround'⟩ | ⟨-, hround'⟩ <;> omega

/-! ### Rounding to ranks -/

/-- What `quotientLog2` compares is whether a power of two is reached. -/
theorem two_zpow_le_iff (num : Nat) {den : Nat} (hden : 0 < den) (k : Int) :
    (if 0 ≤ k then decide (den * Nat.pow 2 k.toNat ≤ num)
      else decide (den ≤ num * Nat.pow 2 (-k).toNat)) = true ↔ (2 : ℚ) ^ k ≤ num / den := by
  have hd : (0 : ℚ) < den := Nat.cast_pos.2 hden
  split
  · rename_i hk
    rw [decide_eq_true_iff, zpow_eq_pow_toNat 2 hk, le_div_iff₀ hd, mul_comm]
    norm_cast
  · rename_i hk
    rw [decide_eq_true_iff, zpow_eq_inv_pow_toNat 2 hk, le_div_iff₀ hd,
      inv_mul_le_iff₀ (by positivity), mul_comm]
    norm_cast

/-- A positive quotient lies between two successive powers of two. -/
theorem quotientLog2_spec {num den : Nat} (hnum : num ≠ 0) (hden : 0 < den) :
    (2 : ℚ) ^ quotientLog2 num den ≤ num / den ∧
      (num : ℚ) / den < 2 ^ (quotientLog2 num den + 1) := by
  have hd : (0 : ℚ) < den := Nat.cast_pos.2 hden
  have hnumLow : (2 : ℚ) ^ num.log2 ≤ num := by exact_mod_cast Nat.log2_self_le hnum
  have hnumHigh : (num : ℚ) < 2 ^ (num.log2 + 1) := by exact_mod_cast Nat.lt_log2_self
  have hdenLow : (2 : ℚ) ^ den.log2 ≤ den := by
    exact_mod_cast Nat.log2_self_le (Nat.ne_of_gt hden)
  have hdenHigh : (den : ℚ) < 2 ^ (den.log2 + 1) := by exact_mod_cast Nat.lt_log2_self
  have hpow : ∀ a b : Nat, (2 : ℚ) ^ ((a : Int) - b) = 2 ^ a / 2 ^ b := by
    intro a b
    rw [zpow_sub₀ (by norm_num), zpow_natCast, zpow_natCast]
  -- the logarithms of the parts give the power up to one
  have hlow : (2 : ℚ) ^ ((num.log2 : Int) - den.log2 - 1) ≤ num / den := by
    rw [sub_sub, show ((den.log2 : Int) + 1) = ((den.log2 + 1 : Nat) : Int) by norm_num, hpow]
    gcongr
  have hhigh : (num : ℚ) / den < 2 ^ ((num.log2 : Int) - den.log2 + 1) := by
    rw [sub_add_eq_add_sub, show ((num.log2 : Int) + 1) = ((num.log2 + 1 : Nat) : Int) by norm_num,
      hpow]
    gcongr
  have hreached := two_zpow_le_iff num hden ((num.log2 : Int) - den.log2)
  by_cases h : (2 : ℚ) ^ ((num.log2 : Int) - den.log2) ≤ num / den
  · have hlog : quotientLog2 num den = num.log2 - den.log2 := if_pos (hreached.2 h)
    rw [hlog]
    exact ⟨h, hhigh⟩
  · have hlog : quotientLog2 num den = num.log2 - den.log2 - 1 := if_neg (mt hreached.1 h)
    rw [hlog, sub_add_cancel]
    exact ⟨hlow, not_le.1 h⟩

/-- The exponent of the rank that a quotient is rounded to. -/
def roundedScale (num den : Nat) : Int := max (quotientLog2 num den - 52) (-1074)

/-- The quotient in units of the least place of its rank, rounded. -/
def roundedMantissa (num den : Nat) : Nat :=
  let e := roundedScale num den
  if 0 ≤ e then roundQuotient num (den * Nat.pow 2 e.toNat)
  else roundQuotient (num * Nat.pow 2 (-e).toNat) den

/-- The rank of a ratio is that of its scale and its rounded mantissa. -/
theorem rankOfRatio_of_ne_zero {num : Nat} (h : num ≠ 0) (den : Nat) :
    rankOfRatio num den =
      (roundedScale num den + 1074).toNat * Nat.pow 2 52 + roundedMantissa num den := by
  rw [rankOfRatio, if_neg h]
  rfl

/-- The mantissa is rounded from a quotient of natural numbers. -/
theorem exists_roundedMantissa_eq (num : Nat) {den : Nat} (hden : 0 < den) :
    ∃ n d : Nat, 0 < d ∧ (n : ℚ) / d = (num : ℚ) / den / 2 ^ roundedScale num den ∧
      roundedMantissa num den = roundQuotient n d := by
  have hscaled := div_two_zpow_eq num den (roundedScale num den)
  rw [roundedMantissa]
  split
  · rename_i he
    rw [if_pos he] at hscaled
    exact ⟨_, _, Nat.mul_pos hden (Nat.pow_pos (by decide)), hscaled, rfl⟩
  · rename_i he
    rw [if_neg he] at hscaled
    exact ⟨_, _, hden, hscaled, rfl⟩

/-- The mantissa has 53 bits, and all of them unless the exponent is the smallest one. -/
theorem roundedMantissa_bounds {num den : Nat} (hnum : num ≠ 0) (hden : 0 < den) :
    roundedMantissa num den ≤ 9007199254740992 ∧
      (-1074 < roundedScale num den → 4503599627370496 ≤ roundedMantissa num den) := by
  obtain ⟨hlow, hhigh⟩ := quotientLog2_spec hnum hden
  obtain ⟨n, d, hd, hquotient, hrounded⟩ := exists_roundedMantissa_eq num hden
  have hdq : (0 : ℚ) < d := Nat.cast_pos.2 hd
  have hunit : (0 : ℚ) < 2 ^ roundedScale num den := by positivity
  rw [hrounded]
  constructor
  · -- the scale is at most 52 below the logarithm, to whose next power the quotient does not come
    refine roundQuotient_le hd ?_
    have hlt : (n : ℚ) / d < 9007199254740992 := by
      rw [hquotient, div_lt_iff₀ hunit]
      refine hhigh.trans_le ?_
      rw [show (9007199254740992 : ℚ) = 2 ^ (53 : Int) by norm_num,
        ← zpow_add₀ (by norm_num)]
      refine zpow_le_zpow_right₀ (by norm_num) ?_
      rw [roundedScale]
      omega
    rw [div_lt_iff₀ hdq] at hlt
    exact_mod_cast hlt.le
  · -- above the smallest scale it is exactly 52 below the logarithm
    intro hscale
    refine le_roundQuotient hd ?_
    have hle : (4503599627370496 : ℚ) ≤ n / d := by
      rw [hquotient, le_div_iff₀ hunit]
      refine le_trans ?_ hlow
      rw [show (4503599627370496 : ℚ) = 2 ^ (52 : Int) by norm_num,
        ← zpow_add₀ (by norm_num)]
      refine zpow_le_zpow_right₀ (by norm_num) ?_
      rw [roundedScale] at hscale ⊢
      omega
    rw [le_div_iff₀ hdq] at hle
    exact_mod_cast hle

/-- A larger quotient is not rounded to a smaller rank. -/
theorem rankOfRatio_mono {num den num' den' : Nat} (hden : 0 < den) (hden' : 0 < den')
    (h : (num : ℚ) / den ≤ num' / den') : rankOfRatio num den ≤ rankOfRatio num' den' := by
  have hd : (0 : ℚ) < den := Nat.cast_pos.2 hden
  have hd' : (0 : ℚ) < den' := Nat.cast_pos.2 hden'
  by_cases hnum : num = 0
  · rw [rankOfRatio, if_pos hnum]
    exact Nat.zero_le _
  have hpositive : (0 : ℚ) < num / den := div_pos (Nat.cast_pos.2 (Nat.pos_of_ne_zero hnum)) hd
  have hnum' : num' ≠ 0 := by
    rintro rfl
    rw [Nat.cast_zero, zero_div] at h
    exact absurd h (not_le.2 hpositive)
  have hlog : quotientLog2 num den ≤ quotientLog2 num' den' := by
    have hlow := (quotientLog2_spec hnum hden).1
    have hhigh := (quotientLog2_spec hnum' hden').2
    have hlt : (2 : ℚ) ^ quotientLog2 num den < 2 ^ (quotientLog2 num' den' + 1) :=
      (hlow.trans h).trans_lt hhigh
    have := (zpow_lt_zpow_iff_right₀ (by norm_num : (1 : ℚ) < 2)).1 hlt
    omega
  have hscale : roundedScale num den ≤ roundedScale num' den' := by
    rw [roundedScale, roundedScale]
    omega
  have hleast : -1074 ≤ roundedScale num den := le_max_right _ _
  obtain ⟨hupper, -⟩ := roundedMantissa_bounds hnum hden
  obtain ⟨-, hlower⟩ := roundedMantissa_bounds hnum' hden'
  have hpow : Nat.pow 2 52 = 4503599627370496 := rfl
  rw [rankOfRatio_of_ne_zero hnum, rankOfRatio_of_ne_zero hnum', hpow]
  -- a larger scale makes up for any mantissa below `2 ^ 53`; on one scale the mantissas decide
  rcases lt_or_eq_of_le hscale with hlt | heq
  · have := hlower (by omega)
    omega
  · -- on one grid the quotients are rounded to integers
    obtain ⟨n, d, hn, hquotient, hrounded⟩ := exists_roundedMantissa_eq num hden
    obtain ⟨n', d', hn', hquotient', hrounded'⟩ := exists_roundedMantissa_eq num' hden'
    rw [heq, hrounded, hrounded']
    refine Nat.add_le_add_left (roundQuotient_mono hn hn' ?_) _
    have hle : (n : ℚ) / d ≤ n' / d' := by
      rw [hquotient, hquotient', heq]
      gcongr
    rw [div_le_div_iff₀ (Nat.cast_pos.2 hn) (Nat.cast_pos.2 hn')] at hle
    exact_mod_cast hle

/-- A quotient that is the value of a rank is rounded to the rank. -/
theorem rankOfRatio_exact {num den rank : Nat} (hden : 0 < den)
    (h : (num : ℚ) / den = exact rank) : rankOfRatio num den = rank := by
  have hd : (0 : ℚ) < den := Nat.cast_pos.2 hden
  have hrank := rank_eq rank
  have hless := mantissa_lt rank
  have hscale := scale_eq_or_le_mantissa rank
  have hpow : Nat.pow 2 52 = 4503599627370496 := rfl
  by_cases hzero : rank = 0
  · have hnum : (num : ℚ) = 0 := by
      rw [hzero, show exact 0 = 0 by simp [exact, mantissa], div_eq_zero_iff] at h
      exact h.resolve_right hd.ne'
    rw [rankOfRatio, if_pos (Nat.cast_eq_zero.1 hnum), hzero]
  have hmantissa : (0 : ℚ) < mantissa rank := Nat.cast_pos.2 (mantissa_pos hzero)
  have hnum : num ≠ 0 := by
    rintro rfl
    rw [Nat.cast_zero, zero_div, exact] at h
    exact absurd h (ne_of_lt (by positivity))
  -- the exponent of the quotient is that of the rank
  have hrounded : roundedScale num den = scale rank := by
    obtain ⟨hlow, hhigh⟩ := quotientLog2_spec hnum hden
    rw [h, exact] at hlow hhigh
    have hupper : quotientLog2 num den < scale rank + 53 := by
      refine (zpow_lt_zpow_iff_right₀ (by norm_num : (1 : ℚ) < 2)).1 (hlow.trans_lt ?_)
      rw [add_comm, zpow_add₀ (by norm_num)]
      gcongr
      norm_num
      exact_mod_cast hless
    have hlower : 4503599627370496 ≤ mantissa rank → scale rank + 52 ≤ quotientLog2 num den := by
      intro hfull
      have : (2 : ℚ) ^ (scale rank + 52) < 2 ^ (quotientLog2 num den + 1) := by
        refine lt_of_le_of_lt ?_ hhigh
        rw [add_comm, zpow_add₀ (by norm_num)]
        gcongr
        norm_num
        exact_mod_cast hfull
      have := (zpow_lt_zpow_iff_right₀ (by norm_num : (1 : ℚ) < 2)).1 this
      omega
    rw [roundedScale]
    omega
  -- in its units the quotient is the mantissa itself
  obtain ⟨n, d, hn, hquotient, hround⟩ := exists_roundedMantissa_eq num hden
  have hsame : (n : ℚ) = mantissa rank * d := by
    rw [hrounded, h, exact, mul_div_cancel_right₀ _ (by positivity),
      div_eq_iff (Nat.cast_pos.2 hn).ne'] at hquotient
    exact hquotient
  have hn' : n = mantissa rank * d := by exact_mod_cast hsame
  have hvalue : roundedMantissa num den = mantissa rank :=
    hround.trans (Nat.le_antisymm (roundQuotient_le hn hn'.le) (le_roundQuotient hn hn'.ge))
  rw [rankOfRatio_of_ne_zero hnum, hrounded, hvalue, hpow]
  omega

/-- A quotient of less than half of the least value above zero is rounded to zero. -/
theorem rankOfRatio_eq_zero {num den : Nat} (hden : 0 < den)
    (h : (num : ℚ) / den < 2 ^ (-1075 : Int)) : rankOfRatio num den = 0 := by
  by_cases hnum : num = 0
  · rw [rankOfRatio, if_pos hnum]
  have hlog : quotientLog2 num den < -1075 :=
    (zpow_lt_zpow_iff_right₀ (by norm_num : (1 : ℚ) < 2)).1
      ((quotientLog2_spec hnum hden).1.trans_lt h)
  have hscale : roundedScale num den = -1074 := by
    rw [roundedScale]
    omega
  obtain ⟨n, d, hn, hquotient, hround⟩ := exists_roundedMantissa_eq num hden
  -- less than half a unit is left over
  have hhalf : 2 * n < d := by
    have hlt : (n : ℚ) / d < 2⁻¹ := by
      rw [hquotient, hscale, div_lt_iff₀ (by positivity)]
      refine h.trans_eq ?_
      rw [show (-1075 : Int) = -1 + -1074 by norm_num, zpow_add₀ (by norm_num), zpow_neg_one]
    rw [div_lt_iff₀ (Nat.cast_pos.2 hn), inv_mul_eq_div, lt_div_iff₀ (by norm_num), mul_comm] at hlt
    exact_mod_cast hlt
  have hzero : roundQuotient n d = 0 := by
    rw [roundQuotient, Nat.div_eq_of_lt (by omega), Nat.mod_eq_of_lt (by omega), if_pos hhalf]
  rw [rankOfRatio_of_ne_zero hnum, hround, hscale, hzero]
  rfl

/-! ### The nearest rank -/

/-- The rank nearest to a number that is not negative, ties to the even rank. -/
def nearest (x : ℚ) : Nat := rankOfRatio x.num.toNat x.den

variable {x y : ℚ}

/-- A number that is not negative is the quotient of two natural numbers. -/
theorem toNat_num_div_den (h : 0 ≤ x) : (x.num.toNat : ℚ) / x.den = x := by
  have hnum : ((x.num.toNat : Int) : ℚ) = x.num := by
    rw [Int.toNat_of_nonneg (Rat.num_nonneg.2 h)]
  rw [← Int.cast_natCast, hnum, Rat.num_div_den]

/-- The rank of a ratio is the nearest one. -/
theorem rankOfRatio_eq_nearest {num den : Nat} (hden : 0 < den) :
    rankOfRatio num den = nearest (num / den) := by
  have hsame := toNat_num_div_den (x := (num : ℚ) / den) (by positivity)
  exact Nat.le_antisymm (rankOfRatio_mono hden (Rat.den_pos _) hsame.ge)
    (rankOfRatio_mono (Rat.den_pos _) hden hsame.le)

/-- Rounding keeps the order. -/
theorem nearest_mono (hx : 0 ≤ x) (h : x ≤ y) : nearest x ≤ nearest y := by
  refine rankOfRatio_mono (Rat.den_pos x) (Rat.den_pos y) ?_
  rwa [toNat_num_div_den hx, toNat_num_div_den (hx.trans h)]

/-- The value of a rank is rounded to that rank. -/
@[simp] theorem nearest_exact (rank : Nat) : nearest (exact rank) = rank :=
  rankOfRatio_exact (Rat.den_pos _) (toNat_num_div_den (exact_nonneg rank))

/-- A number is below the value of every rank above its own. -/
theorem lt_exact_of_nearest_lt {rank : Nat} (h : nearest x < rank) : x < exact rank := by
  refine not_le.1 fun hle => Nat.not_le.2 h ?_
  rw [← nearest_exact rank]
  exact nearest_mono (exact_nonneg rank) hle

/-- Zero is rounded to zero. -/
@[simp] theorem nearest_zero : nearest 0 = 0 := rfl

/-- What is less than half of the least positive number is rounded to zero. -/
theorem nearest_eq_zero (hx : 0 ≤ x) (h : x < 2 ^ (-1075 : Int)) : nearest x = 0 :=
  rankOfRatio_eq_zero (Rat.den_pos x) (by rwa [toNat_num_div_den hx])

end Binary64

end EnsembleDesk

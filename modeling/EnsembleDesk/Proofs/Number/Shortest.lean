import EnsembleDesk.Number.Shortest
import EnsembleDesk.Proofs.Number.Rounding
/-!
# Shortest decimals read back

A decimal number is rounded to the rank nearest to its value: the limits that decide it for very
large and very small exponents do not change that (`Decimal.toBinary64_eq`). So every decimal number
that a search for the shortest digits can end with is rounded to the rank that it was searched for,
on a grid because it was tried there, and at the end because the exact expansion has the same value.

## Main results

* `Binary64.nearest_value_shortest`: the shortest digits of a finite rank are rounded to the rank.
-/

namespace EnsembleDesk

namespace Decimal

open Binary64 (nearest exact)

/-- The value of a decimal number, without its sign. -/
def value (d : Decimal) : ℚ := d.coefficient * 10 ^ d.exponent

/-- Without its sign, a decimal number is not negative. -/
theorem value_nonneg (d : Decimal) : 0 ≤ d.value := by
  unfold value
  positivity

/-- Infinity has the rank that the next number of its exponent would have. -/
theorem exact_infiniteRank : exact infiniteRank = 2 ^ (1024 : Int) := by
  have hmantissa : Binary64.mantissa infiniteRank = 4503599627370496 := rfl
  have hscale : Binary64.scale infiniteRank = 972 := rfl
  rw [exact, hmantissa, hscale, show (1024 : Int) = 52 + 972 by norm_num,
    zpow_add₀ (by norm_num)]
  norm_num

/-- A decimal number other than zero with an exponent above 400 is beyond the largest finite
number. -/
theorem le_nearest_of_large {d : Decimal} (h : d.coefficient ≠ 0) (hlarge : 400 < d.exponent) :
    infiniteRank ≤ nearest d.value := by
  have hone : (1 : ℚ) ≤ d.coefficient := by exact_mod_cast Nat.pos_of_ne_zero h
  have hpower : (2 : ℚ) ^ (1024 : Int) ≤ 10 ^ (400 : Int) := by
    have h : 2 ^ 1024 ≤ 10 ^ 400 := by decide +kernel
    exact_mod_cast h
  rw [← Binary64.nearest_exact infiniteRank]
  refine Binary64.nearest_mono (Binary64.exact_nonneg _) ?_
  calc exact infiniteRank = 2 ^ (1024 : Int) := exact_infiniteRank
    _ ≤ 10 ^ (400 : Int) := hpower
    _ ≤ 10 ^ d.exponent := zpow_le_zpow_right₀ (by norm_num) hlarge.le
    _ ≤ d.coefficient * 10 ^ d.exponent := le_mul_of_one_le_left (by positivity) hone

/-- A decimal number with an exponent far below the length of its coefficient is nearest to zero. -/
theorem nearest_eq_zero_of_small {d : Decimal}
    (hsmall : d.exponent < -(400 + (Nat.log2 d.coefficient : Int))) : nearest d.value = 0 := by
  have hcoefficient : (d.coefficient : ℚ) < 2 ^ (d.coefficient.log2 + 1) := by
    exact_mod_cast Nat.lt_log2_self
  have hpower : (10 : ℚ) ^ (-401 : Int) ≤ 2 ^ (-1076 : Int) := by
    have h : 2 ^ 1076 ≤ 10 ^ 401 := by decide +kernel
    rw [zpow_neg, zpow_neg]
    refine inv_anti₀ (by positivity) ?_
    exact_mod_cast h
  refine Binary64.nearest_eq_zero d.value_nonneg ?_
  -- each bit of the coefficient is outweighed by a digit of the exponent
  calc (d.coefficient : ℚ) * 10 ^ d.exponent
      ≤ d.coefficient * 10 ^ (-401 + -(d.coefficient.log2 : Int)) := by
        gcongr
        · norm_num
        · omega
    _ < 2 ^ (d.coefficient.log2 + 1) * 10 ^ (-401 + -(d.coefficient.log2 : Int)) := by
        gcongr
    _ = 2 * 10 ^ (-401 : Int) * (2 / 10) ^ d.coefficient.log2 := by
        rw [zpow_add₀ (by norm_num), zpow_neg _ (d.coefficient.log2 : Int), zpow_natCast, div_pow,
          pow_succ]
        ring
    _ ≤ 2 * 10 ^ (-401 : Int) * 1 := by
        gcongr
        exact pow_le_one₀ (by norm_num) (by norm_num)
    _ ≤ 2 * 2 ^ (-1076 : Int) := by
        rw [mul_one]
        gcongr
    _ = 2 ^ (-1075 : Int) := by
        rw [show (-1075 : Int) = 1 + -1076 by norm_num, zpow_add₀ (by norm_num), zpow_one]

/-- A decimal number is rounded to the rank nearest to its value. -/
theorem toBinary64_eq (d : Decimal) :
    d.toBinary64 = Binary64.ofRank d.negative (nearest d.value) := by
  rw [toBinary64]
  split
  · rename_i hzero
    have hvalue : d.value = 0 := by
      rw [value, hzero, Nat.cast_zero, zero_mul]
    rw [hvalue]
    rfl
  split
  · -- so large an exponent is taken for infinity, so small a one for zero
    rename_i hzero hlarge
    rw [Binary64.infinity, Binary64.ofRank, Binary64.ofRank]
    simp only [Nat.min_eq_right (le_nearest_of_large hzero hlarge), Nat.min_self]
  split
  · rename_i hsmall
    rw [nearest_eq_zero_of_small hsmall]
  split
  · rename_i he
    rw [Binary64.ofRatio, Binary64.rankOfRatio_eq_nearest Nat.one_pos, value,
      zpow_eq_pow_toNat 10 he, Nat.pow_eq, Nat.cast_mul, Nat.cast_pow, Nat.cast_ofNat, Nat.cast_one,
      div_one]
  · rename_i he
    have hden : 0 < Nat.pow 10 (-d.exponent).toNat := Nat.pow_pos (by decide)
    rw [Binary64.ofRatio, Binary64.rankOfRatio_eq_nearest hden, value,
      zpow_eq_inv_pow_toNat 10 he, Nat.pow_eq, Nat.cast_pow, Nat.cast_ofNat, div_eq_mul_inv]

/-- Moving zeros from the coefficient to the exponent does not change the value. -/
theorem value_stripZeros (fuel : Nat) (d : Decimal) : (stripZeros fuel d).value = d.value := by
  induction fuel generalizing d with
  | zero => rfl
  | succ fuel ih =>
    rw [stripZeros]
    split
    · rename_i hzero
      have hcoefficient : (d.coefficient : ℚ) = 10 * (d.coefficient / 10 : Nat) := by
        exact_mod_cast (Nat.mul_div_cancel' (Nat.dvd_of_mod_eq_zero hzero)).symm
      rw [ih, value, value, hcoefficient, zpow_add_one₀ (by norm_num)]
      ring
    · rfl

end Decimal

namespace Binary64

variable {rank : Nat} {d : Decimal}

/-- A rank tells apart the finite numbers of a sign. -/
theorem ofRank_eq_iff {n : Nat} {negative : Bool} (h : rank < infiniteRank) :
    ofRank negative n = ofRank negative rank ↔ n = rank := by
  rw [ofRank, ofRank, signed.injEq, Fin.mk.injEq, eq_self_iff_true, true_and]
  omega

/-- A decimal number that reads back as a finite rank is nearest to it. -/
theorem nearest_of_readsBack (h : rank < infiniteRank) (hd : readsBack rank d = true)
    (hsign : d.negative = false) : nearest d.value = rank := by
  rw [readsBack, decide_eq_true_iff, Decimal.toBinary64_eq, hsign] at hd
  exact (ofRank_eq_iff h).1 hd

/-- The exact decimal number of a rank has its value. -/
theorem value_exactDecimal (rank : Nat) : (exactDecimal rank).value = exact rank := by
  rw [exactDecimal, exact]
  split
  · rename_i he
    rw [Decimal.value, zpow_eq_pow_toNat 2 he, zpow_zero, mul_one, Nat.pow_eq, Nat.cast_mul,
      Nat.cast_pow, Nat.cast_ofNat]
  · rename_i he
    -- the power of five in the coefficient leaves one of two of the power of ten
    have hten : (10 : ℚ) ^ (-scale rank).toNat =
        5 ^ (-scale rank).toNat * 2 ^ (-scale rank).toNat := by
      rw [← mul_pow]
      norm_num
    have hfive : (5 : ℚ) ^ (-scale rank).toNat ≠ 0 := by positivity
    rw [Decimal.value, zpow_eq_inv_pow_toNat 10 he, zpow_eq_inv_pow_toNat 2 he, hten, Nat.pow_eq,
      Nat.cast_mul, Nat.cast_pow, Nat.cast_ofNat, mul_inv, mul_assoc, mul_inv_cancel_left₀ hfive]

variable (ties : TieRule)

/-- A neighbour on the grid of decimal numbers of a length is taken only if its nearest rank is the
given one. -/
theorem nearest_gridNeighbour {num den : Nat} {k : Int} (h : rank < infiniteRank)
    (hd : gridNeighbour? ties rank num den k = some d) : nearest d.value = rank := by
  simp only [gridNeighbour?] at hd
  split at hd
  · rename_i hbelow
    split at hd
    · rename_i habove
      rw [Bool.and_eq_true] at habove
      obtain rfl := Option.some.inj hd
      exact nearest_of_readsBack h habove.1 rfl
    · obtain rfl := Option.some.inj hd
      exact nearest_of_readsBack h hbelow rfl
  · split at hd
    · rename_i habove
      obtain rfl := Option.some.inj hd
      exact nearest_of_readsBack h habove rfl
    · cases hd

/-- Whatever grid the search ends on, what it finds is rounded to the rank. -/
theorem nearest_searchGrids (h : rank < infiniteRank) (num den grids : Nat) (k : Int) :
    nearest (searchGrids ties rank num den grids k).value = rank := by
  induction grids generalizing k with
  | zero => rw [searchGrids, value_exactDecimal, nearest_exact]
  | succ grids ih =>
    rw [searchGrids]
    cases hd : gridNeighbour? ties rank num den k with
    | none => exact ih (k - 1)
    | some d => exact nearest_gridNeighbour ties h hd

/-- The shortest digits of a finite rank are rounded to the rank. -/
theorem nearest_value_shortest (h : rank < infiniteRank) :
    nearest (shortest ties rank).value = rank := by
  rw [shortest]
  split
  · rename_i hzero
    rw [Decimal.value, Nat.cast_zero, zero_mul, nearest_zero, hzero]
  · rw [Decimal.value_stripZeros]
    exact nearest_searchGrids ties h _ _ _ _

/-- Only zero has no digit but zero. -/
theorem coefficient_shortest_ne_zero (h : rank < infiniteRank) (hzero : rank ≠ 0) :
    (shortest ties rank).coefficient ≠ 0 := by
  intro hcoefficient
  have hvalue : (shortest ties rank).value = 0 := by
    rw [Decimal.value, hcoefficient, Nat.cast_zero, zero_mul]
  have hnearest := nearest_value_shortest ties h
  rw [hvalue] at hnearest
  exact hzero hnearest.symm

/-- The shortest digits stand for less than the value of every larger rank. -/
theorem value_shortest_lt {next : Nat} (h : rank < infiniteRank) (hnext : rank < next) :
    (shortest ties rank).value < exact next :=
  lt_exact_of_nearest_lt ((nearest_value_shortest ties h).trans_lt hnext)

end Binary64

end EnsembleDesk

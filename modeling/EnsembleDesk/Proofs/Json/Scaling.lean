import EnsembleDesk.Json.Number
import EnsembleDesk.Proofs.Json.Scalars
import EnsembleDesk.Proofs.Number.Rounding
/-!
# Written numbers that stay finite

A reader takes a written number for a significand of 64 bits that is scaled by a power of ten, and
rounds twice on the way. So a number below the largest finite one may still come out infinite, but
none up to the value of the rank below the largest does (`WrittenNumber.exists_scaled?`). Since
rounding is monotone, that is one evaluation for each of the largest powers of ten: the one of the
largest significand that is not too large for the power.
-/

namespace EnsembleDesk

namespace Binary64

/-- The rank below the largest finite one. -/
def nextToLargest : Nat := infiniteRank - 2

/-! ### Multiplying and dividing by powers of ten -/

/-- The rank of a power of ten is the one nearest to it. -/
theorem tenRank_eq (n : Nat) : tenRank n = nearest (10 ^ n) := by
  rw [tenRank, rankOfRatio_eq_nearest Nat.one_pos, Nat.cast_one, div_one, Nat.pow_eq, Nat.cast_pow,
    Nat.cast_ofNat]

/-- No power of ten is rounded to less than one. -/
theorem one_le_exact_tenRank (n : Nat) : 1 ≤ exact (tenRank n) := by
  have hone : exact 4607182418800017408 = 1 := by
    have hmantissa : mantissa 4607182418800017408 = 4503599627370496 := rfl
    have hscale : scale 4607182418800017408 = -52 := rfl
    rw [exact, hmantissa, hscale]
    norm_num
  have hrank : 4607182418800017408 ≤ tenRank n := by
    rw [tenRank_eq, ← nearest_exact 4607182418800017408, hone]
    exact nearest_mono zero_le_one (one_le_pow₀ (by norm_num))
  rw [← hone]
  exact exact_mono hrank

/-- A product with a power of ten is the number nearest to the exact product of both. -/
theorem timesTen_eq (rank n : Nat) :
    timesTen rank n = nearest (exact rank * exact (tenRank n)) := by
  have hden := Nat.mul_pos (magnitude_pos rank) (magnitude_pos (tenRank n))
  rw [exact_eq, exact_eq, div_mul_div_comm, ← Nat.cast_mul, ← Nat.cast_mul,
    ← rankOfRatio_eq_nearest hden]
  rfl

/-- A quotient by a power of ten is the number nearest to the exact quotient of both. -/
theorem overTen_eq (rank n : Nat) :
    overTen rank n = nearest (exact rank / exact (tenRank n)) := by
  have hpositive : (0 : ℚ) < (magnitude (tenRank n)).1 := by
    have hone := one_le_exact_tenRank n
    rw [exact_eq] at hone
    have hden : (0 : ℚ) < (magnitude (tenRank n)).2 := Nat.cast_pos.2 (magnitude_pos _)
    rw [le_div_iff₀ hden, one_mul] at hone
    exact hden.trans_le hone
  have hden := Nat.mul_pos (magnitude_pos rank) (Nat.cast_pos.1 hpositive)
  rw [exact_eq, exact_eq, div_div_div_eq, ← Nat.cast_mul, ← Nat.cast_mul,
    ← rankOfRatio_eq_nearest hden]
  rfl

/-- A larger power of ten has no lower rank. -/
theorem tenRank_mono {m n : Nat} (h : m ≤ n) : tenRank m ≤ tenRank n := by
  rw [tenRank_eq, tenRank_eq]
  exact nearest_mono (by positivity) (pow_le_pow_right₀ (by norm_num) h)

/-- A product with a power of ten does not become less if the number or the power is larger. -/
theorem timesTen_mono {rank larger m n : Nat} (hrank : rank ≤ larger) (h : m ≤ n) :
    timesTen rank m ≤ timesTen larger n := by
  have hleft := exact_mono hrank
  have hright := exact_mono (tenRank_mono h)
  rw [timesTen_eq, timesTen_eq]
  exact nearest_mono (mul_nonneg (exact_nonneg _) (exact_nonneg _))
    (mul_le_mul hleft hright (exact_nonneg _) (exact_nonneg _))

/-- Dividing by a power of ten does not make a number larger. -/
theorem overTen_le (rank n : Nat) : overTen rank n ≤ rank := by
  conv => rhs; rw [← nearest_exact rank]
  rw [overTen_eq]
  exact nearest_mono (div_nonneg (exact_nonneg _) (exact_nonneg _))
    (div_le_self (exact_nonneg _) (one_le_exact_tenRank n))

/-! ### Scaling a significand -/

/-- The powers of ten for which a significand of 64 bits may be too large. -/
def largePowers : List Nat := List.range' 289 20

/-- The largest significand that is not too large for one of them does not come out infinite. -/
theorem timesTen_largest : ∀ n ∈ largePowers,
    timesTen (rankOfRatio ((magnitude nextToLargest).1 / Nat.pow 10 n) 1) n < infiniteRank := by
  decide +kernel

/-- The number below the largest finite one is a whole number. -/
theorem exact_nextToLargest : exact nextToLargest = (magnitude nextToLargest).1 := by
  have hden : (magnitude nextToLargest).2 = 1 := rfl
  rw [exact_eq, hden, Nat.cast_one, div_one]

variable {significand : Nat} {e : Int}

/-- A significand of 64 bits is rounded to at most the sixty-fourth power of two. -/
theorem rankOfRatio_significand_le (h : significand < Nat.pow 2 64) :
    rankOfRatio significand 1 ≤ rankOfRatio (Nat.pow 2 64) 1 :=
  rankOfRatio_mono Nat.one_pos Nat.one_pos (by gcongr)

/-- If the exact product of a significand and a power of ten is at most the number below the largest
finite one, then the rounded product is finite, although both factors are rounded first. -/
theorem timesTen_lt {n : Nat} (hbits : significand < Nat.pow 2 64) (hn : n ≤ 308)
    (h : (significand : ℚ) * 10 ^ n ≤ exact nextToLargest) :
    timesTen (rankOfRatio significand 1) n < infiniteRank := by
  by_cases hsmall : n ≤ 288
  · -- no significand of 64 bits is too large for a smaller power
    have hle := timesTen_mono (rankOfRatio_significand_le hbits) hsmall
    exact Nat.lt_of_le_of_lt hle (by decide +kernel)
  · have hmem : n ∈ largePowers := List.mem_range'_1.2 ⟨by omega, by omega⟩
    rw [exact_nextToLargest] at h
    have hnat : significand * Nat.pow 10 n ≤ (magnitude nextToLargest).1 := by exact_mod_cast h
    have hle := (Nat.le_div_iff_mul_le (Nat.pow_pos (by decide : 0 < 10))).2 hnat
    have hrank : rankOfRatio significand 1 ≤
        rankOfRatio ((magnitude nextToLargest).1 / Nat.pow 10 n) 1 := by
      refine rankOfRatio_mono Nat.one_pos Nat.one_pos ?_
      rw [Nat.cast_one, div_one, div_one, Nat.cast_le]
      exact hle
    exact Nat.lt_of_le_of_lt (timesTen_mono hrank (Nat.le_refl n)) (timesTen_largest n hmem)

/-- A significand that is scaled to no more than the value of the rank below the largest stays
finite. -/
theorem exists_scaleByTen? (hbits : significand < Nat.pow 2 64)
    (h : (significand : ℚ) * 10 ^ e ≤ exact nextToLargest) :
    ∃ rank < infiniteRank, scaleByTen? (rankOfRatio significand 1) e = some rank := by
  have hfinite : rankOfRatio significand 1 < infiniteRank :=
    Nat.lt_of_le_of_lt (rankOfRatio_significand_le hbits) (by decide +kernel)
  have hover := fun n => Nat.lt_of_le_of_lt (overTen_le (rankOfRatio significand 1) n) hfinite
  rw [scaleByTen?]
  split
  · exact ⟨0, by decide, rfl⟩
  rename_i hzero
  split
  · -- one with so large an exponent would be too large
    rename_i hlarge
    have hone : (1 : ℚ) ≤ significand := by
      have hne : significand ≠ 0 := fun hs => hzero (by rw [hs, rankOfRatio, if_pos rfl])
      exact_mod_cast Nat.pos_of_ne_zero hne
    have hbound : exact nextToLargest < 10 ^ (309 : Int) := by
      have hnat : (magnitude nextToLargest).1 < 10 ^ 309 := by decide +kernel
      rw [exact_nextToLargest]
      exact_mod_cast hnat
    have hpower : (10 : ℚ) ^ (309 : Int) ≤ 10 ^ e := zpow_le_zpow_right₀ (by norm_num) hlarge
    have hscaled : (10 : ℚ) ^ e ≤ significand * 10 ^ e :=
      le_mul_of_one_le_left (by positivity) hone
    exact absurd (hpower.trans (hscaled.trans h)) (not_le.2 hbound)
  split
  · rename_i hsmall hpositive
    -- a positive exponent takes one product, which stays finite by its bound
    rw [zpow_eq_pow_toNat 10 hpositive] at h
    have hlt := timesTen_lt hbits (by omega) h
    refine ⟨_, hlt, ?_⟩
    rw [Option.filter_some, if_pos (decide_eq_true hlt)]
  split
  · -- a negative exponent divides, once or twice, or leaves nothing
    exact ⟨_, hover _, rfl⟩
  split
  · exact ⟨_, Nat.lt_of_le_of_lt (overTen_le _ _) (hover 308), rfl⟩
  · exact ⟨0, by decide, rfl⟩

end Binary64

/-! ### Gathering digits -/

/-- A number becomes at least ten times as large with each digit behind it. -/
theorem mul_pow_le_foldl_digits (significand : Nat) (digits : List Char) :
    significand * 10 ^ digits.length ≤
      digits.foldl (fun n c => 10 * n + digitValue c) significand := by
  induction digits generalizing significand with
  | nil => rw [List.length_nil, Nat.pow_zero, Nat.mul_one, List.foldl_nil]
  | cons c digits ih =>
    rw [List.foldl_cons, List.length_cons, Nat.pow_succ]
    refine Nat.le_trans ?_ (ih (10 * significand + digitValue c))
    rw [Nat.add_mul]
    refine Nat.le_trans (Nat.le_of_eq ?_) (Nat.le_add_right _ _)
    ring

namespace WrittenNumber

/-- The digits that are gathered have 64 bits, and with zeros for those that are left over they are
no more than the number that is written. -/
theorem gather_spec {significand : Nat} (h : significand < Nat.pow 2 64) (digits : List Char) :
    (gather significand digits).1 < Nat.pow 2 64 ∧
      (gather significand digits).2 ≤ digits.length ∧
      (gather significand digits).1 * 10 ^ (gather significand digits).2 ≤
        digits.foldl (fun n c => 10 * n + digitValue c) significand := by
  induction digits generalizing significand with
  | nil => exact ⟨h, Nat.le_refl _, by rw [gather, Nat.pow_zero, Nat.mul_one, List.foldl_nil]⟩
  | cons c digits ih =>
    rw [gather]
    split
    · rename_i hlonger
      obtain ⟨hbits, hleft, hvalue⟩ := ih hlonger
      exact ⟨hbits, Nat.le_succ_of_le hleft, hvalue⟩
    · exact ⟨h, Nat.le_refl _, mul_pow_le_foldl_digits significand (c :: digits)⟩

/-- The number that digits and exponent stand for, without its sign. -/
def exact (number : WrittenNumber) : ℚ :=
  digitsValue (number.whole ++ number.fraction) *
    10 ^ (number.power.getD 0 - number.fraction.length)

/-- A number up to the value of the rank below the largest is read as a finite number. -/
theorem exists_scaled? {number : WrittenNumber} (hwhole : digitsValue number.whole < Nat.pow 2 64)
    (h : number.exact ≤ Binary64.exact Binary64.nextToLargest) :
    ∃ rank < infiniteRank, number.scaled? = some (Binary64.ofRank number.negative rank) := by
  have hgathered : gather 0 number.whole = (digitsValue number.whole, 0) := gather_eq hwhole
  obtain ⟨hbits, hleft, hvalue⟩ := gather_spec hwhole number.fraction
  have hdigits : number.fraction.foldl (fun n c => 10 * n + digitValue c)
      (digitsValue number.whole) = digitsValue (number.whole ++ number.fraction) :=
    List.foldl_append.symm
  rw [hdigits] at hvalue
  rw [scaled?, hgathered]
  simp only
  generalize gather (digitsValue number.whole) number.fraction = gathered at *
  obtain ⟨significand, left⟩ := gathered
  -- each digit that is left over makes the exponent larger by one
  have hexponent : ((0 : Nat) : Int) - ((number.fraction.length - left : Nat) : Int) +
      number.power.getD 0 = left + (number.power.getD 0 - number.fraction.length) := by
    omega
  have hscaled : (significand : ℚ) *
      10 ^ ((left : Int) + (number.power.getD 0 - number.fraction.length)) ≤
        Binary64.exact Binary64.nextToLargest := by
    refine le_trans ?_ h
    rw [exact, zpow_add₀ (by norm_num), ← mul_assoc, zpow_natCast]
    gcongr
    exact_mod_cast hvalue
  obtain ⟨rank, hrank, hsome⟩ := Binary64.exists_scaleByTen? hbits hscaled
  refine ⟨rank, hrank, ?_⟩
  rw [hexponent, hsome, Option.map_some]

end WrittenNumber

end EnsembleDesk

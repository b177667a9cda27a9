import EnsembleDesk.Proofs.Number.Places
import Mathlib
/-!
# Numbers as machine floats

`Binary64.toFloat` makes a machine float of a number by its interchange encoding. The parts into
which the model of machine floats unpacks it are the sign, the mantissa and the scale of the number
(`Binary64.unpack_toBits`, `Binary64.pack_unpacked`), so nothing is lost on the way
(`Binary64.ofFloat_toFloat`) and what is decided about machine floats is decided about numbers.

The numerals `4503599627370496`, `9007199254740992` and `9223372036854775808` are `2 ^ 52`, `2 ^ 53`
and `2 ^ 63`, written out for linear arithmetic.

## Main results

* `Binary64.isFinite_toFloat`, `Binary64.toFloat_lt_toFloat`, `Binary64.toFloat_le_toFloat`:
  finiteness and order are those of the numbers;
* `Binary64.ofNat_eq_toFloat`: the machine float of a natural number is exact where a number has
  that value;
* `Binary64.isWhole_toFloat`: a machine float from two on is whole if its number is an integer.
-/

namespace EnsembleDesk

open Float.Model Float.Model.UnpackedFloat

namespace Binary64

/-! ### Sign, mantissa and scale -/

/-- The rank of infinity: the exponent bits all set. -/
theorem infiniteRank_eq : infiniteRank = 9218868437227405312 := rfl

/-- Only zero has no digits. -/
theorem mantissa_pos {rank : Nat} (h : rank ≠ 0) : 0 < mantissa rank := by
  unfold mantissa
  split
  · exact Nat.pos_of_ne_zero h
  · exact Nat.add_pos_left (by decide) _

/-- A rank counts the steps of its own exponent on top of those of smaller ones. -/
theorem rank_eq (rank : Nat) :
    (rank : Int) = (scale rank + 1074) * 4503599627370496 + mantissa rank := by
  have hpow : Nat.pow 2 52 = 4503599627370496 := rfl
  rw [scale, mantissa, hpow]
  split <;> omega

/-- The sign of a machine float. -/
def sign (negative : Bool) : Sign := if negative then .negative else .positive

/-- A number, as the parts of a machine float. -/
def unpacked : Binary64 → UnpackedFloat
  | nan => .notANumber
  | signed negative rank =>
    if rank.val = infiniteRank then .infinity (sign negative)
    else if h : rank.val = 0 then .zero (sign negative)
    else .finite (sign negative) (mantissa rank.val) (scale rank.val) (mantissa_pos h)

/-- The bits of a number are its rank, and the sign on top. -/
theorem toNat_toBits_signed (negative : Bool) (rank : Fin (infiniteRank + 1)) :
    (signed negative rank).toBits.toNat =
      rank.val + if negative then 9223372036854775808 else 0 := by
  have hrank : rank.val < 9218868437227405312 + 1 := rank.isLt
  rw [toBits, UInt64.toNat_ofNat', show Nat.pow 2 63 = 9223372036854775808 from rfl]
  refine Nat.mod_eq_of_lt ?_
  split <;> omega

/-- The lower 52 bits are the mantissa field. -/
theorem toNat_unpackMantissa (b : BitVec 64) :
    (@unpackMantissa Format.binary64 b).toNat = b.toNat % 4503599627370496 := by
  simp [unpackMantissa, BitVec.extractLsb_toNat]

/-- The 11 bits above them are the exponent field. -/
theorem toNat_unpackExponent (b : BitVec 64) :
    (@unpackExponent Format.binary64 b).toNat =
      b.toNat / 4503599627370496 % 2048 := by
  simp [unpackExponent, BitVec.extractLsb_toNat, Nat.shiftRight_eq_div_pow]

/-- The uppermost bit is the sign. -/
theorem toNat_unpackSign (b : BitVec 64) :
    (@unpackSign Format.binary64 b).toNat = b.toNat / 9223372036854775808 := by
  have := b.isLt
  simp [unpackSign, BitVec.extractLsb_toNat, Nat.shiftRight_eq_div_pow]
  omega

/-- The implicit bit stands above the mantissa field. -/
theorem toNat_implicit_append (m : BitVec 52) :
    (1#1 ++ m).toNat = 4503599627370496 + m.toNat := by
  rw [BitVec.toNat_append, ← Nat.shiftLeft_add_eq_or_of_lt m.isLt]
  rfl

section Fields

variable (negative : Bool) (rank : Fin (infiniteRank + 1))

/-- The sign is read back from the bits. -/
theorem ofBitVec_unpackSign :
    Sign.ofBitVec (@unpackSign Format.binary64
      (signed negative rank).toBits.toBitVec) = sign negative := by
  have hrank : rank.val < 9218868437227405312 + 1 := rank.isLt
  have hsign := toNat_unpackSign (signed negative rank).toBits.toBitVec
  rw [UInt64.toNat_toBitVec, toNat_toBits_signed] at hsign
  have hzero : (0#1).toNat = 0 := rfl
  simp only [Sign.ofBitVec, ← BitVec.toNat_inj, hsign, hzero]
  cases negative with
  | false => exact if_pos (by simp only [Bool.false_eq_true, if_false]; omega)
  | true => exact if_neg (by simp only [if_true]; omega)

/-- The exponent field of the bits is that of the rank. -/
theorem toNat_unpackExponent_toBits :
    (@unpackExponent Format.binary64 (signed negative rank).toBits.toBitVec).toNat =
      rank.val / 4503599627370496 := by
  have hrank : rank.val < 9218868437227405312 + 1 := rank.isLt
  rw [toNat_unpackExponent, UInt64.toNat_toBitVec, toNat_toBits_signed]
  split <;> omega

/-- The mantissa field of the bits is that of the rank. -/
theorem toNat_unpackMantissa_toBits :
    (@unpackMantissa Format.binary64 (signed negative rank).toBits.toBitVec).toNat =
      rank.val % 4503599627370496 := by
  rw [toNat_unpackMantissa, UInt64.toNat_toBitVec, toNat_toBits_signed]
  split <;> omega

end Fields

/-- The fields of the interchange encoding are sign, exponent and mantissa of a number. -/
theorem unpack_toBits (x : Binary64) :
    UnpackedFloat.unpack Format.binary64 x.toBits.toBitVec = x.unpacked := by
  cases x with
  | nan => rfl
  | signed negative rank =>
    have hones : (-1#11).toNat = 2047 := rfl
    have hzeros : (0#11).toNat = 0 := rfl
    have hzeros' : (0#52).toNat = 0 := rfl
    have hbias : ((Format.binary64.exponentBias : Nat) : Int) = 1023 := rfl
    have hpow : Nat.pow 2 52 = 4503599627370496 := rfl
    simp only [UnpackedFloat.unpack, unpacked, ofBitVec_unpackSign, ← BitVec.toNat_inj,
      toNat_unpackExponent_toBits, toNat_unpackMantissa_toBits, toNat_implicit_append, hones,
      hzeros, hzeros', hbias, mantissa, scale, hpow]
    have hrank : rank.val < 9218868437227405312 + 1 := rank.isLt
    have hinfinite : rank.val = infiniteRank ↔ rank.val = 9218868437227405312 := Iff.rfl
    simp only [hinfinite]
    -- infinity, zero, the subnormal numbers and the others are told by the exponent field
    split_ifs <;> first | rfl | omega | (rw [finite.injEq]; refine ⟨rfl, ?_, ?_⟩ <;> omega)

/-- A number has one interchange encoding, and there is one for what is no number. -/
theorem valid_toBits (x : Binary64) : Format.binary64.Valid x.toBits.toBitVec := by
  refine ⟨fun hexponent hmantissa => ?_⟩
  cases x with
  | nan => rfl
  | signed negative rank =>
    -- a number whose exponent field is full is infinite
    have hrank : rank.val < 9218868437227405312 + 1 := rank.isLt
    have hones : (-1#11).toNat = 2047 := rfl
    rw [← BitVec.toNat_inj, toNat_unpackExponent_toBits, hones] at hexponent
    refine absurd (BitVec.eq_of_toNat_eq ?_) hmantissa
    rw [toNat_unpackMantissa_toBits]
    show _ = 0
    omega

/-- Packing the parts of a number gives its interchange encoding. -/
theorem pack_unpacked (x : Binary64) :
    UnpackedFloat.pack Format.binary64 x.unpacked = x.toBits.toBitVec := by
  rw [← unpack_toBits]
  exact pack_unpack_of_valid (valid_toBits x)

/-- A number and its machine float have the same bits. -/
theorem toBits_toFloat (x : Binary64) : x.toFloat.toBits = x.toBits := by
  show UInt64.ofBitVec (UnpackedFloat.pack Format.binary64
    (UnpackedFloat.unpack Format.binary64 x.toBits.toBitVec)) = _
  rw [unpack_toBits, pack_unpacked]

/-- A machine float that was made of a number unpacks to the parts of the number. -/
theorem unpack_toFloat (x : Binary64) : x.toFloat.toModel.unpack = x.unpacked := by
  have hbits : x.toFloat.toModel.toBits = x.toBits := toBits_toFloat x
  rw [Float.Model.unpack, hbits, unpack_toBits]

/-- Packing the parts of a number gives the machine float. -/
theorem ofModel_pack_unpacked (x : Binary64) :
    Float.ofModel (Float.Model.pack x.unpacked) = x.toFloat := by
  rw [← unpack_toBits]
  rfl

/-- A number is given by its bits. -/
theorem ofBits_toBits (x : Binary64) : ofBits x.toBits = x := by
  cases x with
  | nan => rfl
  | signed negative rank =>
    have hrank : rank.val < 9218868437227405312 + 1 := rank.isLt
    have hbits := toNat_toBits_signed negative rank
    have hpow : Nat.pow 2 63 = 9223372036854775808 := rfl
    have hrest : (signed negative rank).toBits.toNat % Nat.pow 2 63 = rank.val := by
      rw [hbits, hpow]
      split <;> omega
    have hnegative : decide (Nat.pow 2 63 ≤ (signed negative rank).toBits.toNat) = negative := by
      rw [hbits, hpow]
      cases negative with
      | false => exact decide_eq_false (by simp only [Bool.false_eq_true, if_false]; omega)
      | true => exact decide_eq_true (by simp only [if_true]; omega)
    rw [ofBits, hrest, if_neg (Nat.not_lt.2 (Nat.le_of_lt_succ rank.isLt)), hnegative, ofRank,
      signed.injEq, Fin.ext_iff]
    exact ⟨rfl, Nat.min_eq_left (Nat.le_of_lt_succ rank.isLt)⟩

/-- The number that a machine float made of it holds. -/
theorem ofFloat_toFloat (x : Binary64) : ofFloat x.toFloat = x := by
  rw [ofFloat, toBits_toFloat, ofBits_toBits]

/-- A number is finite just as its machine float is. -/
theorem isFinite_toFloat (x : Binary64) : x.toFloat.isFinite = x.isFinite := by
  show x.toFloat.toModel.unpack.isFinite = _
  rw [unpack_toFloat]
  cases x with
  | nan => rfl
  | signed negative rank =>
    rw [unpacked, isFinite]
    split_ifs with hinfinite hzero
    · simp [hinfinite, UnpackedFloat.isFinite]
    · simp [hzero, infiniteRank_eq, UnpackedFloat.isFinite]
    · simp [hinfinite, UnpackedFloat.isFinite]

/-! ### Order -/

/-- The smallest exponent is that of the numbers whose mantissa is not full, among others. -/
theorem scale_eq_or_le_mantissa (rank : Nat) :
    -1074 ≤ scale rank ∧ (scale rank = -1074 ∨ 4503599627370496 ≤ mantissa rank) := by
  have hpow : Nat.pow 2 52 = 4503599627370496 := rfl
  rw [scale, mantissa, hpow]
  split <;> omega

/-- A mantissa has 53 bits at most. -/
theorem mantissa_lt (rank : Nat) : mantissa rank < 9007199254740992 := by
  have hpow : Nat.pow 2 52 = 4503599627370496 := rfl
  rw [mantissa, hpow]
  split <;> omega

/-- Exponents and mantissas, in this order, compare as ranks do. -/
theorem compare_scale_then_mantissa (r s : Nat) :
    (compare (scale r) (scale s)).then (compare (mantissa r) (mantissa s)) =
      compare (r : Int) s := by
  have hr := rank_eq r
  have hs := rank_eq s
  have hrlt := mantissa_lt r
  have hslt := mantissa_lt s
  have hrscale := scale_eq_or_le_mantissa r
  have hsscale := scale_eq_or_le_mantissa s
  rcases lt_trichotomy (scale r) (scale s) with hscale | hscale | hscale
  · rw [compare_lt_iff_lt.2 hscale, compare_lt_iff_lt.2 (show (r : Int) < s by omega)]
    rfl
  · rw [compare_eq_iff_eq.2 hscale, Ordering.eq_then]
    rw [hscale] at hr
    rcases lt_trichotomy (mantissa r) (mantissa s) with hm | hm | hm
    · rw [compare_lt_iff_lt.2 hm, compare_lt_iff_lt.2 (show (r : Int) < s by omega)]
    · rw [compare_eq_iff_eq.2 hm, compare_eq_iff_eq.2 (show (r : Int) = s by omega)]
    · rw [compare_gt_iff_gt.2 hm, compare_gt_iff_gt.2 (show (r : Int) > s by omega)]
  · rw [compare_gt_iff_gt.2 hscale, compare_gt_iff_gt.2 (show (r : Int) > s by omega)]
    rfl

/-- Negation turns an order round. -/
theorem compare_neg_neg (a b : Int) : compare (-a) (-b) = (compare a b).swap := by
  rcases lt_trichotomy a b with h | h | h
  · rw [compare_lt_iff_lt.2 h, compare_gt_iff_gt.2 (show -a > -b by omega)]
    rfl
  · rw [compare_eq_iff_eq.2 h, compare_eq_iff_eq.2 (show -a = -b by omega)]
    rfl
  · rw [compare_gt_iff_gt.2 h, compare_lt_iff_lt.2 (show -a < -b by omega)]
    rfl

/-- Machine floats compare as the places of numbers on the number line do. -/
theorem compare_unpacked (x y : Binary64) :
    x.unpacked.compare y.unpacked =
      x.place.bind fun a => y.place.map fun b => compare a b := by
  cases x with
  | nan => rfl
  | signed negative r =>
    cases y with
    | nan =>
      rw [unpacked, unpacked]
      split_ifs <;> rfl
    | signed negative' s =>
      have hr : r.val < 9218868437227405312 + 1 := r.isLt
      have hs : s.val < 9218868437227405312 + 1 := s.isLt
      have hfinite := compare_scale_then_mantissa r.val s.val
      have hinfinite : ∀ r : Fin (infiniteRank + 1),
          r.val = infiniteRank ↔ r.val = 9218868437227405312 := fun _ => Iff.rfl
      simp only [unpacked, hinfinite, place, Option.bind_some, Option.map_some]
      -- infinite, zero or neither, on both sides, with either sign
      cases negative <;> cases negative' <;>
        simp only [sign, Bool.false_eq_true, if_true, if_false]
      all_goals split_ifs
      all_goals simp only [UnpackedFloat.compare, hfinite]
      all_goals
        first
        | rfl
        | exact congrArg some (compare_neg_neg _ _).symm
        | exact congrArg some (compare_lt_iff_lt.2 (by omega)).symm
        | exact congrArg some (compare_gt_iff_gt.2 (by omega)).symm
        | exact congrArg some (compare_eq_iff_eq.2 (by omega)).symm

/-- Machine floats compare like the numbers they stand for. -/
theorem toFloat_lt_toFloat {x y : Binary64} : x.toFloat < y.toFloat ↔ x < y := by
  have hmodel : x.toFloat < y.toFloat ↔
      x.toFloat.toModel.unpack.compare y.toFloat.toModel.unpack = some .lt := by
    show decide (x.toFloat.toModel < y.toFloat.toModel) = true ↔ _
    rw [decide_eq_true_iff]
    show (_ == some Ordering.lt) = true ↔ _
    rw [beq_iff_eq]
  rw [hmodel, unpack_toFloat, unpack_toFloat, compare_unpacked, lt_iff]
  simp only [Option.bind_eq_some_iff, Option.map_eq_some_iff, compare_lt_iff_lt]
  exact ⟨fun ⟨a, ha, b, hb, h⟩ => ⟨a, b, ha, hb, h⟩, fun ⟨a, b, ha, hb, h⟩ => ⟨a, ha, b, hb, h⟩⟩

/-- Machine floats compare like the numbers they stand for, equality included. -/
theorem toFloat_le_toFloat {x y : Binary64} : x.toFloat ≤ y.toFloat ↔ x ≤ y := by
  have hmodel : x.toFloat ≤ y.toFloat ↔
      ((x.toFloat.toModel.unpack.compare y.toFloat.toModel.unpack).any (·.isLE)) = true := by
    show decide (x.toFloat.toModel ≤ y.toFloat.toModel) = true ↔ _
    rw [decide_eq_true_iff]
    exact Iff.rfl
  rw [hmodel, unpack_toFloat, unpack_toFloat, compare_unpacked, le_iff]
  cases x.place with
  | none => simp
  | some a =>
    cases y.place with
    | none => simp
    | some b => simp [Int.isLE_compare]

/-! ### Natural numbers -/

/-- A power of two adds its exponent to the logarithm. -/
theorem log2_mul_two_pow {m : Nat} (h : m ≠ 0) (k : Nat) : (m * 2 ^ k).log2 = m.log2 + k := by
  induction k with
  | zero => rw [Nat.pow_zero, Nat.mul_one, Nat.add_zero]
  | succ k ih =>
    rw [Nat.pow_succ, ← Nat.mul_assoc, Nat.mul_comm _ 2, Nat.log2_two_mul (by positivity), ih,
      Nat.add_assoc]

/-- Shifting a mantissa that ends in zeros loses nothing. -/
theorem shiftRight_exact (m k : Nat) :
    ExtendedMantissa.mk (m * 2 ^ k) false false >>> k = ⟨m, false, false⟩ := by
  induction k generalizing m with
  | zero => rw [Nat.pow_zero, Nat.mul_one]; rfl
  | succ k ih =>
    have hm : m * 2 ^ (k + 1) = m * 2 * 2 ^ k := by rw [Nat.pow_succ]; ring
    rw [hm]
    show ((⟨m * 2 * 2 ^ k, false, false⟩ : ExtendedMantissa) >>> k).shiftRightOne = _
    rw [ih]
    simp [ExtendedMantissa.shiftRightOne]

/-- The mantissa and the exponent of a number whose mantissa is full. -/
theorem mantissa_scale {rank : Nat} (h : 4503599627370496 ≤ rank) :
    mantissa rank = 4503599627370496 + rank % 4503599627370496 ∧
      scale rank = (rank / 4503599627370496 : Nat) - 1075 ∧ (mantissa rank).log2 = 52 := by
  have hpow : Nat.pow 2 52 = 4503599627370496 := rfl
  rw [mantissa, scale, hpow, if_neg (Nat.not_lt.2 h), if_neg (Nat.not_lt.2 h)]
  exact ⟨rfl, by omega, (Nat.log2_eq_iff (by omega)).2 ⟨by omega, by omega⟩⟩

/-- Trailing zeros are shifted out without a rest. -/
theorem shiftToTargetExponent_exact {rank : Nat} (h : 4503599627370496 ≤ rank) (k : Nat) :
    shiftToTargetExponent Format.binary64 (mantissa rank * 2 ^ k) (scale rank - k) .exact =
      (⟨mantissa rank, false, false⟩, scale rank) := by
  have hparts := mantissa_scale h
  have hlog : (mantissa rank * 2 ^ k).log2 = 52 + k := by
    rw [log2_mul_two_pow (Nat.ne_of_gt (mantissa_pos (by omega))), hparts.2.2]
  have htarget : Format.binary64.targetExponent
      (totalExponent (mantissa rank * 2 ^ k) (scale rank - k)) = scale rank := by
    have hbits : Format.binary64.mantissaBits = 53 := rfl
    have hmin : Format.binary64.minExponent = -1074 := rfl
    rw [Format.targetExponent, totalExponent, hlog, hbits, hmin]
    have hscale := (scale_eq_or_le_mantissa rank).1
    omega
  have hshift : (scale rank - (scale rank - k)).toNat = k := by omega
  simp only [shiftToTargetExponent, htarget, shiftToExponent, hshift,
    ExtendedMantissa.ofMantissaAndAccuracy, shiftRight_exact, Prod.mk.injEq, true_and]
  omega

/-- Rounding leaves a number with a full mantissa as it is, however it is written. -/
theorem roundWithAccuracy_exact {rank : Nat} (h : 4503599627370496 ≤ rank) (s : Sign) (k : Nat) :
    roundWithAccuracy Format.binary64 s (mantissa rank * 2 ^ k) (scale rank - k) .exact =
      .finite s (mantissa rank) (scale rank) (mantissa_pos (by omega)) := by
  have hfirst := shiftToTargetExponent_exact h k
  have hsecond := shiftToTargetExponent_exact h 0
  have hrounded : (⟨mantissa rank, false, false⟩ : ExtendedMantissa).roundedMantissa =
    mantissa rank := rfl
  rw [Nat.pow_zero, Nat.mul_one, Int.natCast_zero, Int.sub_zero] at hsecond
  rw [roundWithAccuracy, hfirst]
  simp only [hrounded, hsecond]
  rw [dif_neg (Nat.ne_of_gt (mantissa_pos (by omega)))]

/-- A positive number below infinity is its mantissa at its scale. -/
theorem unpacked_ofRank {rank : Nat} (h : rank ≠ 0) (hlast : rank < infiniteRank) :
    (ofRank false rank).unpacked =
      .finite .positive (mantissa rank) (scale rank) (mantissa_pos h) := by
  have hmin : min rank infiniteRank = rank := Nat.min_eq_left (Nat.le_of_lt hlast)
  simp only [ofRank, unpacked, hmin]
  rw [if_neg (Nat.ne_of_lt hlast), dif_neg h]
  rfl

/-- A natural number of at most 53 digits is rounded by filling up its mantissa. -/
theorem round_natural {n rank k : Nat} (h : 4503599627370496 ≤ rank)
    (hscale : scale rank = -(k : Int)) (hn : n * 2 ^ k = mantissa rank) :
    UnpackedFloat.round Format.binary64 .positive n 0 =
      .finite .positive (mantissa rank) (scale rank) (mantissa_pos (by omega)) := by
  have hparts := mantissa_scale h
  have hlog : n.log2 + k = 52 := by
    have hne : n ≠ 0 := by
      rintro rfl
      have := mantissa_pos (show rank ≠ 0 by omega)
      omega
    rw [← log2_mul_two_pow hne, hn]
    exact hparts.2.2
  -- the exponent that is aimed at is that of the rank, so no digit is lost
  have htarget : Format.binary64.targetExponent (totalExponent n 0) = scale rank := by
    have hbits : Format.binary64.mantissaBits = 53 := rfl
    have hmin : Format.binary64.minExponent = -1074 := rfl
    rw [Format.targetExponent, totalExponent, hbits, hmin]
    omega
  have hround := roundWithAccuracy_exact h .positive 0
  rw [Nat.pow_zero, Nat.mul_one, Int.natCast_zero, Int.sub_zero] at hround
  have hshift : (0 - scale rank).toNat = k := by omega
  rw [UnpackedFloat.round, htarget, decreaseExponent, hshift, Nat.shiftLeft_eq, hn]
  dsimp only
  rw [← hround, hscale]
  congr 1
  omega

theorem positive_mul_positive : Sign.positive * Sign.positive = Sign.positive := rfl

/-- One, as a machine float. -/
theorem unpacked_one : (ofRank false 4607182418800017408).unpacked =
    .finite .positive 4503599627370496 (-52) (by decide) := by
  rw [unpacked_ofRank (by decide) (by decide)]
  rfl

/-- A product is rounded from the exact product of the mantissas. -/
theorem mul_finite (s t : Sign) (m m' : Nat) (e e' : Int) (h : 0 < m) (h' : 0 < m') :
    UnpackedFloat.mul Format.binary64 (.finite s m e h) (.finite t m' e' h') =
      roundWithAccuracy Format.binary64 (s * t) (m * m') (e + e') .exact := rfl

section Exact

variable {n rank : Nat}

/-- A product of machine floats that is the exact one. -/
theorem ofModel_roundWithAccuracy (h : 4503599627370496 ≤ rank) (hlast : rank < infiniteRank)
    {m : Nat} {e : Int} (k : Nat) (hm : m = mantissa rank * 2 ^ k) (he : e = scale rank - k) :
    Float.ofModel (Float.Model.pack (roundWithAccuracy Format.binary64 (.positive * .positive) m e
      .exact)) = (ofRank false rank).toFloat := by
  rw [hm, he, positive_mul_positive, roundWithAccuracy_exact h,
    ← unpacked_ofRank (by omega) hlast, ofModel_pack_unpacked]

/-- A natural number of at most 53 bits converts to the float of that value. -/
theorem toFloat_toUInt64 (h : 4503599627370496 ≤ rank) (hlast : rank < infiniteRank) {k : Nat}
    (hscale : scale rank = -(k : Int)) (hn : n * 2 ^ k = mantissa rank)
    (hlt : n < 9007199254740992) : n.toUInt64.toFloat = (ofRank false rank).toFloat := by
  have htoNat : n.toUInt64.toNat = n := Nat.mod_eq_of_lt (by omega)
  have hpos : (0 : Int) < n := by
    have := mantissa_pos (show rank ≠ 0 by omega)
    rcases Nat.eq_zero_or_pos n with rfl | hpos
    · omega
    · omega
  rw [← ofModel_pack_unpacked, unpacked_ofRank (by omega) hlast, ← round_natural h hscale hn]
  show Float.ofModel (Float.Model.pack (UnpackedFloat.normalize Format.binary64
    (n.toUInt64.toNat : Int) 0 .positive)) = _
  rw [htoNat, UnpackedFloat.normalize, compare_gt_iff_gt.2 hpos, Int.toNat_natCast]

/-- The machine float of a natural number is the number with that value, if there is one. -/
theorem ofNat_eq_toFloat (h : 4503599627370496 ≤ rank) (hlast : rank < infiniteRank)
    (hn : n * 2 ^ (-scale rank).toNat = mantissa rank * 2 ^ (scale rank).toNat) :
    Float.ofNat n = (ofRank false rank).toFloat := by
  have hmantissa : 4503599627370496 ≤ mantissa rank := by
    have hparts := mantissa_scale h
    omega
  have hlt := mantissa_lt rank
  have hunpacked := unpacked_ofRank (Nat.ne_of_gt (Nat.lt_of_lt_of_le (by decide) h)) hlast
  have hzero : 0 < n := by
    rcases Nat.eq_zero_or_pos n with rfl | hpos
    · rw [Nat.zero_mul] at hn
      have : 0 < mantissa rank * 2 ^ (scale rank).toNat := by positivity
      omega
    · exact hpos
  show Float.ofScientific n false 0 = _
  rw [Float.ofScientific]
  split
  -- a number of at most 53 digits is multiplied with one
  · rename_i hfast
    have hscale : scale rank ≤ 0 := by
      by_contra hpos
      have hnone : (-scale rank).toNat = 0 := by omega
      rw [hnone, Nat.pow_zero, Nat.mul_one] at hn
      have htwice : 4503599627370496 * 2 ^ 1 ≤ mantissa rank * 2 ^ (scale rank).toNat :=
        Nat.mul_le_mul hmantissa (Nat.pow_le_pow_right (by decide) (by omega))
      omega
    have hnat : n.toUInt64.toFloat = (ofRank false rank).toFloat := by
      have hnone : (scale rank).toNat = 0 := by omega
      rw [hnone, Nat.pow_zero, Nat.mul_one] at hn
      exact toFloat_toUInt64 h hlast (by omega) hn (by omega)
    have hone : Float.exactlyRepresentablePowersOfTen[0] =
      (ofRank false 4607182418800017408).toFloat := rfl
    show n.toUInt64.toFloat * Float.exactlyRepresentablePowersOfTen[0] = _
    rw [hnat, hone]
    show Float.ofModel (Float.Model.pack (UnpackedFloat.mul Format.binary64
      (ofRank false rank).toFloat.toModel.unpack
      (ofRank false 4607182418800017408).toFloat.toModel.unpack)) = _
    rw [unpack_toFloat, unpack_toFloat, hunpacked, unpacked_one, mul_finite]
    exact ofModel_roundWithAccuracy h hlast 52 rfl rfl
  -- so is a larger one, with its digits moved behind the point
  · rename_i hslow
    have hscale : 0 < scale rank := by
      by_contra hneg
      have hnone : (scale rank).toNat = 0 := by omega
      rw [hnone, Nat.pow_zero, Nat.mul_one] at hn
      have hgrown : n * 1 ≤ n * 2 ^ (-scale rank).toNat :=
        Nat.mul_le_mul_left n Nat.one_le_two_pow
      omega
    have hnone : (-scale rank).toNat = 0 := by omega
    rw [hnone, Nat.pow_zero, Nat.mul_one] at hn
    show Float.ofModel (Float.Model.pack (UnpackedFloat.ofScientific Format.binary64 n 0)) = _
    have hexponent : (2 : Int) ^ Format.binary64.exponentBits = 2048 := rfl
    have hbits : Format.binary64.mantissaBits = 53 := rfl
    rw [UnpackedFloat.ofScientific, dif_neg (by omega), if_neg (by decide),
      if_neg (by rw [hexponent]; omega), if_pos (Int.le_refl 0),
      mul_finite]
    refine ofModel_roundWithAccuracy h hlast ((scale rank).toNat + 53) ?_ ?_
    · rw [Int.toNat_zero, Nat.pow_zero, Nat.mul_one, hbits, Nat.shiftLeft_eq, hn, Nat.mul_assoc,
        ← Nat.pow_add]
    · rw [hbits]
      omega

end Exact

/-- Whether a finite number is an integer: its exact value, a quotient, has no remainder. -/
def IsInteger : Binary64 → Prop
  | nan => False
  | signed _ rank => rank.val ≠ infiniteRank ∧ (magnitude rank.val).2 ∣ (magnitude rank.val).1

instance : DecidablePred IsInteger := fun x =>
  match x with
  | nan => isFalse id
  | signed _ rank => inferInstanceAs (Decidable (rank.val ≠ infiniteRank ∧ _))

/-- The integer part of a number of at least two, as a machine float, has the rank of the number or
a smaller one, and has the same rank if and only if the number is an integer. -/
theorem ofNat_integerPart {rank : Nat} (h : 4611686018427387904 ≤ rank)
    (hlast : rank < infiniteRank) :
    ∃ other < infiniteRank,
      Float.ofNat ((magnitude rank).1 / (magnitude rank).2) = (ofRank false other).toFloat ∧
        (other = rank ↔ (magnitude rank).2 ∣ (magnitude rank).1) := by
  obtain ⟨hmantissa, hscale, -⟩ := mantissa_scale (show 4503599627370496 ≤ rank by omega)
  -- from the exponent zero on, every number is an integer
  by_cases hpos : 0 ≤ scale rank
  · have hmagnitude : magnitude rank = (mantissa rank * 2 ^ (scale rank).toNat, 1) :=
      if_pos hpos
    have hnone : (-scale rank).toNat = 0 := by omega
    refine ⟨rank, hlast, ofNat_eq_toFloat (by omega) hlast ?_, ?_⟩
    · rw [hmagnitude, hnone, Nat.div_one, Nat.pow_zero, Nat.mul_one]
    · rw [hmagnitude]
      exact iff_of_true rfl (Nat.one_dvd _)
  · have hmagnitude : magnitude rank = (mantissa rank, 2 ^ (-scale rank).toNat) := if_neg hpos
    obtain ⟨k, hk, hbound⟩ : ∃ k : Nat, scale rank = -(k : Int) ∧ k ≤ 51 :=
      ⟨(-scale rank).toNat, by omega, by omega⟩
    have htoNat : (-scale rank).toNat = k := by omega
    rw [hmagnitude, htoNat]
    dsimp only
    have hdigits : 2 ^ (52 - k) * 2 ^ k = 4503599627370496 := by
      rw [← Nat.pow_add, Nat.sub_add_cancel (by omega)]
    have hlower : 4503599627370496 ≤ mantissa rank / 2 ^ k * 2 ^ k := by
      rw [← hdigits]
      refine Nat.mul_le_mul_right _ ((Nat.le_div_iff_mul_le (by positivity)).2 ?_)
      rw [hdigits]
      omega
    have hupper := Nat.div_mul_le_self (mantissa rank) (2 ^ k)
    -- the digits behind the point are taken off the mantissa
    obtain ⟨other, hother⟩ : ∃ other,
        other + mantissa rank = rank + mantissa rank / 2 ^ k * 2 ^ k :=
      ⟨rank + mantissa rank / 2 ^ k * 2 ^ k - mantissa rank, by omega⟩
    obtain ⟨hmantissa', hscale', -⟩ := mantissa_scale (show 4503599627370496 ≤ other by omega)
    have hsame : mantissa other = mantissa rank / 2 ^ k * 2 ^ k := by omega
    have hsame' : scale other = scale rank := by omega
    refine ⟨other, by omega, ofNat_eq_toFloat (by omega) (by omega) ?_, ?_⟩
    · have hnone : (scale rank).toNat = 0 := by omega
      rw [hsame', htoNat, hnone, Nat.pow_zero, Nat.mul_one, hsame]
    · rw [Nat.dvd_iff_div_mul_eq]
      omega

/-- Numbers are the same as floats if each is at most the other. -/
theorem same_toFloat {x y : Binary64} :
    Scalar.same x.toFloat y.toFloat = true ↔ x ≤ y ∧ y ≤ x := by
  rw [Scalar.same, Bool.and_eq_true, decide_eq_true_iff, decide_eq_true_iff, toFloat_le_toFloat,
    toFloat_le_toFloat]

/-- Positive numbers are in the order of their ranks. -/
theorem place_ofRank {rank : Nat} (h : rank ≤ infiniteRank) :
    (ofRank false rank).place = some (rank : Int) := by
  simp [ofRank, place, Nat.min_eq_left h]

/-- A machine float of at least two is whole if and only if its number is an integer. -/
theorem isWhole_toFloat {x : Binary64} (htwo : 2 ≤ x) (hfinite : x.isFinite = true) :
    Scalar.isWhole x.toFloat = true ↔ x.IsInteger := by
  obtain ⟨two, place, hplace, hx, hle⟩ := htwo
  obtain rfl : (4611686018427387904 : Int) = two :=
    Option.some.inj (hplace.symm ▸ by decide +kernel)
  cases x with
  | nan => cases hx
  | signed negative rank =>
    have hlast : rank.val < infiniteRank := by
      have := rank.isLt
      simp only [isFinite, bne_iff_ne] at hfinite
      omega
    cases negative with
    | true =>
      have hnegative := Option.some.inj hx
      simp only [if_true] at hnegative
      omega
    | false =>
      have hpositive := Option.some.inj hx
      simp only [Bool.false_eq_true, if_false] at hpositive
      -- the number is compared with the machine float of its integer part
      obtain ⟨other, hother, hfloat, heq⟩ := ofNat_integerPart (by omega) hlast
      have hrank : signed false rank = ofRank false rank := by
        simp [ofRank, Nat.min_eq_left (Nat.le_of_lt hlast)]
      have hpart : Scalar.integerPart (signed false rank).toFloat =
          (magnitude rank).1 / (magnitude rank).2 := by
        show (ofFloat (signed false rank).toFloat).truncated = _
        rw [ofFloat_toFloat, truncated]
      rw [Scalar.isWhole, hpart, Bool.and_eq_true]
      show Float.isFinite _ = true ∧ Scalar.same (Float.ofNat _) _ = true ↔ _
      rw [isFinite_toFloat, hfloat, same_toFloat, and_iff_right hfinite, hrank, le_iff, le_iff,
        place_ofRank (Nat.le_of_lt hother), place_ofRank (Nat.le_of_lt hlast), ← hrank]
      rw [IsInteger, and_iff_right (Nat.ne_of_lt hlast), ← heq]
      simp
      omega

end Binary64
end EnsembleDesk

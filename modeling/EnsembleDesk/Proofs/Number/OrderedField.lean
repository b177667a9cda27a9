import Mathlib.Algebra.BigOperators.Group.List.Basic
import Mathlib.Algebra.Order.Field.Basic
import Mathlib.Algebra.Order.Floor.Semiring
import Mathlib.Analysis.Real.Sqrt
import Mathlib.Data.Rat.Floor
import Mathlib.Tactic.NormNum
import EnsembleDesk.Density.Special
/-!
# Exact arithmetic in an ordered field

`Scalar` asks for arithmetic, an order and an integer part. Every ordered field with a floor has
them, the rational and the real numbers among others, and there nothing is rounded and every number
is finite. The lemmas here say what the operations of `Scalar` are in such a field.

The functions of `Elementary` are not made of arithmetic. `ElementaryFunctions` leaves them open:
what is proved of a field with such functions holds whatever functions stand in their place.

In a field every number can be divided by zero, and a computation that does so goes on with a
number. `Guarded` are the numbers of a field and one thing more, which a division by zero and
everything computed from it gives. A function of any `Scalar` can be run on them: where its result
is a number, none of the divisions that the result is made of was a division by zero. What is
undefined compares with nothing, so that a result can still hide it behind a comparison. A number
that a function computes only to compare it has to be looked at on its own.
-/

namespace EnsembleDesk

section OrderedFields

variable {K : Type} [Field K] [LinearOrder K] [FloorSemiring K]

/-- Exact arithmetic. An instance for one kind of numbers goes before it. -/
instance (priority := low) Scalar.ofField : Scalar K where
  decidableLe := inferInstance
  decidableLt := inferInstance
  isFinite _ := true
  integerPart x := ⌊x⌋₊

/-- The functions that arithmetic does not give. -/
class ElementaryFunctions (K : Type) where
  /-- Stands for the exponential function. -/
  exp : K → K
  /-- Stands for the natural logarithm. -/
  log : K → K
  /-- Stands for the square root. -/
  sqrt : K → K
  /-- Stands for the power function. -/
  pow : K → K → K
  /-- Stands for the complementary error function. -/
  erfc : K → K
  /-- Stands for the logarithm of the gamma function. -/
  logGamma : K → K
  /-- Stands for what a quantile is at one. -/
  infinity : K

/-- Exact arithmetic with any functions. -/
instance (priority := low) Elementary.ofField [ElementaryFunctions K] : Elementary K where
  exp := ElementaryFunctions.exp
  log := ElementaryFunctions.log
  sqrt := ElementaryFunctions.sqrt
  pow := ElementaryFunctions.pow
  erfc := ElementaryFunctions.erfc
  logGamma := ElementaryFunctions.logGamma
  infinity := ElementaryFunctions.infinity

namespace Scalar

/-! ### Numerals -/

@[simp]
theorem zero_field : (0.0 : K) = 0 := by norm_num

@[simp]
theorem one_field : (1.0 : K) = 1 := by norm_num

/-! ### Operations -/

/-- Every number of a field is finite. -/
@[simp]
theorem isFinite_field (x : K) : isFinite x = true := rfl

/-- The integer part is the floor. -/
theorem integerPart_field (x : K) : integerPart x = ⌊x⌋₊ := rfl

/-- A field has no last address that a count would stop at. -/
theorem count_field (x : K) : count x = ⌊x⌋₊ := rfl

/-- In a field lists may be as long as they come. -/
@[simp]
theorem hasRoom_field (n : ℕ) : hasRoom K n = true := rfl

/-- Exact addition does not depend on the order, so the sum is that of the list. -/
@[simp]
theorem sum_field (xs : List K) : sum xs = xs.sum := by
  rw [List.sum_eq_foldl, sum, zero_field]

@[simp]
theorem square_field (x : K) : square x = x ^ 2 := (sq x).symm

/-- Numbers that are numerically equal are equal. -/
@[simp]
theorem same_field (x y : K) : same x y = true ↔ x = y := by
  simpa [same] using le_antisymm_iff.symm

/-- A number between two bounds is in the closed interval. -/
@[simp]
theorem within_field (lo hi x : K) : within lo hi x = true ↔ x ∈ Set.Icc lo hi := by
  simp [within]

/-- The larger number is the maximum. -/
@[simp]
theorem larger_field (x y : K) : larger x y = max x y := by
  unfold larger
  split
  · rename_i h
    exact (max_eq_left h).symm
  · rename_i h
    exact (max_eq_right (le_of_not_ge h)).symm

/-- The smaller number is the minimum. -/
@[simp]
theorem smaller_field (x y : K) : smaller x y = min x y := by
  unfold smaller
  split
  · rename_i h
    exact (min_eq_left h).symm
  · rename_i h
    exact (min_eq_right (le_of_not_ge h)).symm

/-- The magnitude is the absolute value. -/
@[simp]
theorem magnitude_field [IsStrictOrderedRing K] (x : K) : magnitude x = |x| := by
  unfold magnitude
  rw [zero_field]
  split
  · rename_i h
    exact (abs_of_neg h).symm
  · rename_i h
    exact (abs_of_nonneg (le_of_not_gt h)).symm

/-- A number that is moved between two bounds is in the closed interval. -/
theorem clamp_mem_Icc {lo hi : K} (h : lo ≤ hi) (x : K) : clamp lo hi x ∈ Set.Icc lo hi := by
  unfold clamp
  split
  · exact ⟨le_rfl, h⟩
  · rename_i hlow
    split
    · exact ⟨h, le_rfl⟩
    · rename_i hhigh
      exact ⟨not_lt.1 hlow, not_lt.1 hhigh⟩

/-- A number between the bounds stays where it is. -/
theorem clamp_of_mem {lo hi x : K} (h : x ∈ Set.Icc lo hi) : clamp lo hi x = x := by
  rw [clamp, if_neg (not_lt.2 h.1), if_neg (not_lt.2 h.2)]

/-- A number without fractional part is its integer part. -/
theorem isWhole_field {x : K} : isWhole x = true ↔ ((⌊x⌋₊ : ℕ) : K) = x := by
  simp [isWhole, integerPart_field]

end Scalar

end OrderedFields

/-- The rational numbers, with the order they are decided by. -/
instance : Scalar ℚ where
  decidableLe := inferInstance
  decidableLt := inferInstance
  isFinite _ := true
  integerPart x := ⌊x⌋₊

/-! ### Arithmetic that knows where it is undefined -/

/-- A number, or the outcome of an operation outside of its domain. -/
inductive Guarded (K : Type) where
  /-- A number. -/
  | value (x : K)
  /-- What has no value. -/
  | undefined

namespace Guarded

section Operations

variable {K : Type}

/-- An operation on numbers; undefined where one of the operands is. -/
def lift (op : K → K → K) : Guarded K → Guarded K → Guarded K
  | value x, value y => value (op x y)
  | _, _ => undefined

/-- A comparison of numbers; nothing holds of what is undefined. -/
def Compares (rel : K → K → Prop) : Guarded K → Guarded K → Prop
  | value x, value y => rel x y
  | _, _ => False

instance {rel : K → K → Prop} [DecidableRel rel] : DecidableRel (Compares rel)
  | value x, value y => inferInstanceAs (Decidable (rel x y))
  | undefined, _ => .isFalse id
  | value _, undefined => .isFalse id

end Operations

variable {K : Type} [Field K] [LinearOrder K] [FloorSemiring K]

/-- Division by a number other than zero. -/
def div : Guarded K → Guarded K → Guarded K
  | value x, value y => if y = 0 then undefined else value (x / y)
  | _, _ => undefined

instance : Scalar (Guarded K) where
  add := lift (· + ·)
  sub := lift (· - ·)
  mul := lift (· * ·)
  div := div
  neg
    | value x => value (-x)
    | undefined => undefined
  natCast n := value n
  ofScientific mantissa negative exponent :=
    value (OfScientific.ofScientific mantissa negative exponent)
  le := Compares (· ≤ ·)
  lt := Compares (· < ·)
  decidableLe := inferInstanceAs (DecidableRel (Compares (· ≤ ·)))
  decidableLt := inferInstanceAs (DecidableRel (Compares (· < ·)))
  isFinite
    | value _ => true
    | undefined => false
  integerPart
    | value x => Scalar.integerPart x
    | undefined => 0

variable {x y : K}

/-- Defined numbers are added as in the field. -/
@[simp]
theorem value_add : value x + value y = value (x + y) := rfl

/-- The difference of numbers is the number that it is in the field. -/
@[simp]
theorem value_sub : value x - value y = value (x - y) := rfl

/-- The product of numbers is the number that it is in the field. -/
@[simp]
theorem value_mul : value x * value y = value (x * y) := rfl

/-- Defined numbers compare as in the field. -/
@[simp]
theorem value_le : value x ≤ value y ↔ x ≤ y := Iff.rfl

/-- Numbers compare as they do in the field. -/
@[simp]
theorem value_lt : value x < value y ↔ x < y := Iff.rfl

/-- Numerals are defined. -/
@[simp]
theorem ofScientific_eq (mantissa : ℕ) (negative : Bool) (exponent : ℕ) :
    (OfScientific.ofScientific mantissa negative exponent : Guarded K) =
      value (OfScientific.ofScientific mantissa negative exponent) := rfl

/-- The square of a number is the number that it is in the field. -/
@[simp]
theorem square_value : Scalar.square (value x) = value (Scalar.square x) := rfl

/-- A defined number is clamped as in the field. -/
@[simp]
theorem clamp_value {lo hi : K} :
    Scalar.clamp (value lo) (value hi) (value x) = value (Scalar.clamp lo hi x) := by
  unfold Scalar.clamp
  simp only [value_lt]
  split_ifs <;> rfl

/-- A quotient has a value exactly if the divisor is not zero, and then it is the quotient of the
field. -/
theorem value_div_eq_value_iff {z : K} :
    value x / value y = value z ↔ y ≠ 0 ∧ x / y = z := by
  show (if y = 0 then undefined else value (x / y)) = value z ↔ _
  split <;> simp_all

/-- A division is defined where the divisor is not zero. -/
theorem value_div (h : y ≠ 0) : value x / value y = value (x / y) :=
  value_div_eq_value_iff.2 ⟨h, rfl⟩

/-- The square root of a number that is not negative. -/
noncomputable def sqrt : Guarded ℝ → Guarded ℝ
  | value x => if 0 ≤ x then value (√x) else undefined
  | undefined => undefined

/-- The root of a number that is not negative is defined. -/
theorem sqrt_value {x : ℝ} (h : 0 ≤ x) : sqrt (value x) = value (√x) := if_pos h

end Guarded

end EnsembleDesk

import EnsembleDesk.Number.Layout
/-!
# Numbers to compute with

`Scalar` is what the layout of a grid and the distributions need of their numbers: arithmetic, an
order that can be decided, and the integer part. Machine floats and `Binary64` have it, and so has
every field with a floor, so that a computation can be reasoned about exactly.

Machine numbers are kept in a memory that ends: a count that is read from one of them stops at the
last address (`Scalar.count`), and no list of them takes more than half of the addresses
(`Scalar.hasRoom`). In a field lists may be as long as they come.

Comparisons are written as they are meant for a number that compares with nothing: `NaN ≤ x` and
`x ≤ NaN` are both false.
-/

namespace EnsembleDesk

/-- Numbers with arithmetic, a decidable order and an integer part, and the memory for lists of
them. -/
class Scalar (α : Type) extends Add α, Sub α, Mul α, Div α, Neg α, NatCast α, OfScientific α, LE α,
    LT α where
  /-- The order can be decided. -/
  decidableLe : DecidableLE α
  /-- The strict order can be decided. -/
  decidableLt : DecidableLT α
  /-- Whether a number is neither infinite nor NaN. -/
  isFinite : α → Bool
  /-- The integer part of a number that is not negative. -/
  integerPart : α → Nat
  /-- How many addresses there are to keep lists of the numbers at; none if there is no end. -/
  addresses : Option Nat := none

instance (priority := low) Scalar.instDecidableLe {α : Type} [Scalar α] (x y : α) :
    Decidable (x ≤ y) :=
  Scalar.decidableLe x y

instance (priority := low) Scalar.instDecidableLt {α : Type} [Scalar α] (x y : α) :
    Decidable (x < y) :=
  Scalar.decidableLt x y

instance : Scalar Float where
  natCast n := Float.ofNat n
  decidableLe := inferInstance
  decidableLt := inferInstance
  isFinite := Float.isFinite
  integerPart x := (Binary64.ofFloat x).truncated
  addresses := some 18446744073709551616 -- those that 64 bits tell apart

instance : Scalar Binary64 where
  decidableLe := inferInstance
  decidableLt := inferInstance
  isFinite := Binary64.isFinite
  integerPart := Binary64.truncated
  addresses := some 18446744073709551616 -- those that 64 bits tell apart

/-- The shortest digits of a machine float that read back. -/
def floatText (x : Float) : String := (Binary64.ofFloat x).plain

namespace Scalar

variable {α : Type} [Scalar α]

/-- Whether two numbers are numerically equal. -/
def same (x y : α) : Bool := x ≤ y && y ≤ x

/-- Whether a number lies between two bounds, ends included. -/
def within (lo hi x : α) : Bool := lo ≤ x && x ≤ hi

/-- The larger of two numbers, the second if they do not compare. -/
def larger (x y : α) : α := if y ≤ x then x else y

/-- The smaller of two numbers, the second if they do not compare. -/
def smaller (x y : α) : α := if x ≤ y then x else y

/-- Moves a number into the interval between two bounds. -/
def clamp (lo hi x : α) : α := if x < lo then lo else if hi < x then hi else x

/-- The magnitude of a number. -/
def magnitude (x : α) : α := if x < 0.0 then -x else x

/-- The square of a number. -/
def square (x : α) : α := x * x

/-- Whether a number that is not negative has no fractional part. -/
def isWhole (x : α) : Bool := isFinite x && same ((integerPart x : Nat) : α) x

/-- How many elements a number that is not negative asks for: its integer part, or the last address
if it lies behind that. -/
def count (x : α) : Nat :=
  match addresses α with
  | none => integerPart x
  | some m => min (integerPart x) (m - 1)

variable (α) in
/-- Whether there is room for a list of `n` numbers, which take eight addresses each. A list takes
less than half of all addresses. -/
def hasRoom (n : Nat) : Bool :=
  match addresses α with
  | none => true
  | some m => 8 * n < m / 2

/-- The sum of a list of numbers, from left to right. -/
def sum (xs : List α) : α := xs.foldl (· + ·) 0.0

end Scalar

end EnsembleDesk

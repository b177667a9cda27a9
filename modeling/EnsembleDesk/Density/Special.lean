import EnsembleDesk.Density.LogGamma
import EnsembleDesk.Number.Scalar
/-!
# Functions of the normal and the beta distribution

`Elementary` adds to the arithmetic of `Scalar` the functions that densities are made of. On them
stand the density, the distribution function and the quantile function of the standard normal, and
the regularized incomplete beta function.
-/

namespace EnsembleDesk

/-- Numbers with the elementary functions that densities need. -/
class Elementary (α : Type) extends Scalar α where
  /-- The exponential function. -/
  exp : α → α
  /-- The natural logarithm. -/
  log : α → α
  /-- The square root. -/
  sqrt : α → α
  /-- The power function. -/
  pow : α → α → α
  /-- The complementary error function. -/
  erfc : α → α
  /-- The logarithm of the gamma function. -/
  logGamma : α → α
  /-- What a quantile is at one. -/
  infinity : α

instance : Elementary Float where
  exp := Float.exp
  log := Float.log
  sqrt := Float.sqrt
  pow := Float.pow
  erfc := erfc
  logGamma := logGamma
  infinity := 1.0 / 0.0

open Elementary

variable {α : Type} [Elementary α]

/-- The ratio of a circle's circumference to its diameter. -/
def pi : α := 3.141592653589793

/-! ### The standard normal -/

namespace StandardNormal

/-- The density. -/
def pdf (x : α) : α := exp (-0.5 * x * x) / sqrt (2.0 * pi)

/-- The distribution function. -/
def cdf (x : α) : α := 0.5 * Elementary.erfc (-x / 1.4142135623730951)

/-- The rational approximation of the quantile in the lower tail, as a function of
`√(-2 ln p)`. -/
def tail (q : α) : α :=
  (((((-7.784894002430293e-03 * q + -3.223964580411365e-01) * q + -2.400758277161838e+00) * q +
      -2.549732539343734e+00) * q + 4.374664141464968e+00) * q + 2.938163982698783e+00) /
    ((((7.784695709041462e-03 * q + 3.224671290700398e-01) * q + 2.445134137142996e+00) * q +
      3.754408661907416e+00) * q + 1.0)

/-- The rational approximation of the quantile around the median, as a function of `p - 0.5`. -/
def center (q : α) : α :=
  let r := q * q
  (((((-3.969683028665376e+01 * r + 2.209460984245205e+02) * r + -2.759285104469687e+02) * r +
      1.383577518672690e+02) * r + -3.066479806614716e+01) * r + 2.506628277459239e+00) * q /
    (((((-5.447609879822406e+01 * r + 1.615858368580409e+02) * r + -1.556989798598866e+02) * r +
      6.680131188771972e+01) * r + -1.328068155288572e+01) * r + 1.0)

/-- The limit of the tails. -/
def tailLimit : α := 0.02425

/-- The rational approximation of the quantile. -/
def approximateQuantile (p : α) : α :=
  if p < tailLimit then tail (sqrt (-2.0 * log p))
  else if p ≤ 1.0 - tailLimit then center (p - 0.5)
  else -tail (sqrt (-2.0 * log (1.0 - p)))

/-- The quantile function: the rational approximation with one Halley step. -/
def quantile (p : α) : α :=
  if p ≤ 0.0 then -infinity
  else if 1.0 ≤ p then infinity
  else
    let x := approximateQuantile p
    let e := cdf x - p
    let u := e * sqrt (2.0 * pi) * exp (0.5 * x * x)
    x - u / (1.0 + 0.5 * x * u)

end StandardNormal

/-! ### The beta distribution -/

namespace Beta

/-- The logarithm of the beta function. -/
def logBeta (a b : α) : α :=
  Elementary.logGamma a + Elementary.logGamma b - Elementary.logGamma (a + b)

/-- Keeps a denominator away from zero. -/
def guard (x : α) : α := if Scalar.magnitude x < 1.0e-300 then 1.0e-300 else x

/-- The state of the evaluation of a continued fraction. -/
structure Fraction (α : Type) where
  /-- The ratio of successive numerators. -/
  c : α
  /-- The ratio of successive denominators, inverted. -/
  d : α
  /-- The value so far. -/
  value : α

/-- Appends a partial numerator to a continued fraction. -/
def Fraction.append (fraction : Fraction α) (numerator : α) : Fraction α :=
  let d := 1.0 / guard (1.0 + numerator * fraction.d)
  let c := guard (1.0 + numerator / fraction.c)
  ⟨c, d, fraction.value * (d * c)⟩

/-- Appends the partial numerators number `m` and the following ones, two at a time, until they no
longer change the value. -/
def continued (x a b : α) : (steps m : Nat) → Fraction α → Fraction α
  | 0, _, fraction => fraction
  | steps + 1, m, fraction =>
    let k : α := (m : α)
    let k₂ := 2.0 * k
    let even := k * (b - k) * x / ((a - 1.0 + k₂) * (a + k₂))
    let odd := -(a + k) * (a + b + k) * x / ((a + k₂) * (a + 1.0 + k₂))
    let fraction := (fraction.append even).append odd
    if Scalar.magnitude (fraction.d * fraction.c - 1.0) < 3.0e-16 then fraction
    else continued x a b steps (m + 1) fraction

/-- The continued fraction of the incomplete beta function. -/
def fractionValue (x a b : α) : α :=
  let d := 1.0 / guard (1.0 - (a + b) * x / (a + 1.0))
  (continued x a b 300 1 ⟨1.0, d, d⟩).value

/-- The regularized incomplete beta function `I_x(a, b)`. -/
def regularized (x a b : α) : α :=
  if x ≤ 0.0 then 0.0
  else if 1.0 ≤ x then 1.0
  else
    let front := exp (a * log x + b * log (1.0 - x) - logBeta a b)
    if x < (a + 1.0) / (a + b + 2.0) then front * fractionValue x a b / a
    else 1.0 - front * fractionValue (1.0 - x) b a / b

end Beta

end EnsembleDesk

import EnsembleDesk.Number.Scalar
/-!
# Finite discrete distributions

`Masses` is a list of points with their probabilities, the points in increasing order. A point is
recognised within a tolerance that grows with the size of the points, so that a value that was
written out and read back is still found.

`evenGrid` spaces points evenly over an interval, both ends included. `Masses.uniform` puts equal
probabilities on them, and `SkewTransform.masses` those of the bins of a transformed normal: a
standard normal `Z` is mapped to `Φ ((Z + skewness) / width)`, which lies in the unit interval. The
distribution function of the result needs no more of the normal than its distribution function `Φ`
and its quantile function, which are parameters here.
-/

namespace EnsembleDesk

/-- A finite discrete distribution: its points in increasing order, with their probabilities. -/
structure Masses (α : Type) where
  /-- The points and their probabilities. -/
  points : List (α × α)

variable {α : Type} [Scalar α]

/-- The points `min + k (max - min) / (n - 1)` for `k` below `n`. -/
def evenGrid (n : Nat) (min max : α) : List α :=
  let step := (max - min) / ((n - 1 : Nat) : α)
  (List.range n).map fun (k : Nat) => min + (k : α) * step

namespace Masses

/-- The points alone. -/
def support (masses : Masses α) : List α := masses.points.map Prod.fst

/-- How far a number may be from a point and still count as the point. -/
def tolerance (masses : Masses α) : α :=
  let span := match masses.points.head?, masses.points.getLast? with
    | some (lo, _), some (hi, _) =>
      Scalar.larger (Scalar.larger (Scalar.magnitude (hi - lo)) (Scalar.magnitude lo))
        (Scalar.magnitude hi)
    | _, _ => 1.0
  1e-9 * Scalar.larger span 1.0

/-- The probability of a number: that of the first point it counts as, or zero. -/
def pdf (masses : Masses α) (x : α) : α :=
  let near := masses.points.find? fun point =>
    Scalar.magnitude (point.1 - x) ≤ masses.tolerance
  match near with
  | some point => point.2
  | none => 0.0

/-- The probability of all points up to a number, at most one. -/
def cdf (masses : Masses α) (x : α) : α :=
  let limit := x + masses.tolerance
  let upTo := masses.points.takeWhile fun point => point.1 ≤ limit
  Scalar.smaller (Scalar.sum (upTo.map Prod.snd)) 1.0

/-- The first point up to which the probabilities add up to `p`, `total` being the probability of
the points before; the last point if there is none. -/
def quantileFrom (p : α) : (total : α) → List (α × α) → α
  | _, [] => 0.0
  | _, [(value, _)] => value
  | total, (value, probability) :: rest =>
    if p - 1e-12 ≤ total + probability then value
    else quantileFrom p (total + probability) rest

/-- The first point up to which the probabilities add up to `p`. -/
def quantile (masses : Masses α) (p : α) : α :=
  quantileFrom p 0.0 masses.points

/-- The mean. -/
def mean (masses : Masses α) : α :=
  Scalar.sum (masses.points.map fun point => point.1 * point.2)

/-- The variance. -/
def variance (masses : Masses α) : α :=
  let mean := masses.mean
  Scalar.sum (masses.points.map fun point => point.2 * Scalar.square (point.1 - mean))

/-- The more probable of two points; a difference that rounding explains does not count. -/
def moreProbable (best point : α × α) : α × α :=
  if best.2 + 1e-15 < point.2 then point else best

/-- The most probable point, the smallest of several. -/
def mode (masses : Masses α) : α :=
  match masses.points with
  | [] => 0.0
  | first :: rest => (rest.foldl moreProbable first).1

/-- The distribution that makes the points of an even grid equally probable. -/
def uniform (bins : Nat) (min max : α) : Masses α :=
  ⟨(evenGrid bins min max).map fun value => (value, 1.0 / (bins : α))⟩

end Masses

/-! ### Skewed transformations of a normal -/

/-- The parameters of the transformation. -/
structure SkewTransform (α : Type) where
  /-- Shifts mass towards one of the ends. -/
  skewness : α
  /-- Spreads the mass; positive. -/
  width : α

namespace SkewTransform

/-- The probability that the result is at most `u`, for a normal with distribution function `Φ` and
quantile function `quantile`. -/
def cdf (Φ quantile : α → α) (transform : SkewTransform α) (u : α) : α :=
  if u ≤ 0.0 then 0.0
  else if 1.0 ≤ u then 1.0
  else Φ (transform.width * quantile u - transform.skewness)

/-- The probability of the bin number `k` of `bins`. -/
def binMass (Φ quantile : α → α) (transform : SkewTransform α) (bins k : Nat) : α :=
  transform.cdf Φ quantile (((k + 1 : Nat) : α) / (bins : α)) -
    transform.cdf Φ quantile ((k : α) / (bins : α))

/-- The distribution with the probabilities of the bins on an even grid. -/
def masses (Φ quantile : α → α) (transform : SkewTransform α) (bins : Nat) (min max : α) :
    Masses α :=
  ⟨(evenGrid bins min max).zipIdx.map fun (value, k) =>
    (value, transform.binMass Φ quantile bins k)⟩

end SkewTransform

end EnsembleDesk

import EnsembleDesk.Number.Scalar
/-!
# Triangular distributions

The density rises linearly from the lower bound to the mode and falls linearly to the upper bound.
The mode may be one of the bounds; the branches are chosen so that the piece that is missing then is
never evaluated.
-/

namespace EnsembleDesk

/-- A triangular distribution. -/
structure Triangle (α : Type) where
  /-- The lower bound. -/
  min : α
  /-- The place of the peak. -/
  mode : α
  /-- The upper bound. -/
  max : α

namespace Triangle

variable {α : Type} [Scalar α]

/-- The probability of the part below the mode. -/
def peakMass (t : Triangle α) : α := (t.mode - t.min) / (t.max - t.min)

/-- The density. -/
def pdf (t : Triangle α) (x : α) : α :=
  if x < t.min ∨ t.max < x then 0.0
  else if x < t.mode then 2.0 * (x - t.min) / ((t.max - t.min) * (t.mode - t.min))
  else if t.mode < x then 2.0 * (t.max - x) / ((t.max - t.min) * (t.max - t.mode))
  else 2.0 / (t.max - t.min)

/-- The distribution function. -/
def cdf (t : Triangle α) (x : α) : α :=
  if x ≤ t.min then 0.0
  else if t.max ≤ x then 1.0
  else if x ≤ t.mode then Scalar.square (x - t.min) / ((t.max - t.min) * (t.mode - t.min))
  else 1.0 - Scalar.square (t.max - x) / ((t.max - t.min) * (t.max - t.mode))

/-- The quantile function, given a square root. -/
def quantile (sqrt : α → α) (t : Triangle α) (p : α) : α :=
  let p := Scalar.clamp 0.0 1.0 p
  if p < t.peakMass then t.min + sqrt (p * (t.max - t.min) * (t.mode - t.min))
  else t.max - sqrt ((1.0 - p) * (t.max - t.min) * (t.max - t.mode))

/-- The mean. -/
def mean (t : Triangle α) : α := (t.min + t.mode + t.max) / 3.0

/-- The variance. -/
def variance (t : Triangle α) : α :=
  (t.min * t.min + t.max * t.max + t.mode * t.mode - t.min * t.max - t.min * t.mode -
    t.max * t.mode) / 18.0

end Triangle

end EnsembleDesk

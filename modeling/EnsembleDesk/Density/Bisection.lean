import EnsembleDesk.Number.Scalar
/-!
# Inversion by bisection

A monotone function is inverted on an interval by halving it: `narrow` keeps a bracket around the
place where the function reaches a level, until the bracket is narrower than the numbers around it
can tell apart, or for a bounded number of steps.
-/

namespace EnsembleDesk

namespace Bisection

variable {α : Type} [Scalar α]

/-- The middle of a bracket. -/
def middle (bracket : α × α) : α := 0.5 * (bracket.1 + bracket.2)

/-- The half of a bracket in which `f` reaches the level `p`. -/
def halve (f : α → α) (p : α) (bracket : α × α) : α × α :=
  let mid := middle bracket
  if f mid < p then (mid, bracket.2) else (bracket.1, mid)

/-- Whether a bracket is as narrow as the size of its ends allows. -/
def isNarrow (bracket : α × α) : Bool :=
  bracket.2 - bracket.1 ≤
    1e-14 * (1.0 + Scalar.larger (Scalar.magnitude bracket.1) (Scalar.magnitude bracket.2))

/-- Halves a bracket until it is narrow, at most `steps` times. -/
def narrow (f : α → α) (p : α) : (steps : Nat) → α × α → α × α
  | 0, bracket => bracket
  | steps + 1, bracket =>
    let half := halve f p bracket
    if isNarrow half then half else narrow f p steps half

end Bisection

/-- The place in `[lo, hi]` where a distribution function reaches the level `p`; the ends of the
interval for a level outside of `(0, 1)`. -/
def bisectInverse {α : Type} [Scalar α] (f : α → α) (lo hi p : α) : α :=
  if p ≤ 0.0 then lo
  else if 1.0 ≤ p then hi
  else Bisection.middle (Bisection.narrow f p 200 (lo, hi))

end EnsembleDesk

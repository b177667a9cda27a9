import EnsembleDesk.Density.Bisection
import EnsembleDesk.Density.Masses
import EnsembleDesk.Density.Special
import EnsembleDesk.Density.Triangle
/-!
# Families of distributions

The distributions a parameter can have. Each family has a function that checks its parameters and
gives the distribution (`Distribution.normal?` and so on), so that the density, the distribution
function, the quantile function and the moments can rely on them. For a discrete family the density
is the probability of a point.

The points of a discrete family are all kept, so that a number of bins can be right and yet ask for
more memory than there is. That is no error of the parameters: `Failure` tells the two apart.
-/

namespace EnsembleDesk

/-- How a computation fails: by an error that it gives back, or for want of memory, which stops the
program. -/
inductive Failure (ε : Type) where
  /-- There is an error instead of a result. -/
  | error (error : ε)
  /-- There is no answer. -/
  | outOfMemory
deriving DecidableEq

namespace Failure

variable {ε ε' α : Type}

/-- Tells the error differently. -/
def map (f : ε → ε') : Failure ε → Failure ε'
  | error e => error (f e)
  | outOfMemory => outOfMemory

/-- A result that no memory is needed for. -/
def lift (result : Except ε α) : Except (Failure ε) α := result.mapError error

instance : Coe (Except ε α) (Except (Failure ε) α) := ⟨lift⟩

/-- Takes an error for no result. Want of memory is not caught. -/
def caught : Except (Failure ε) α → Except (Failure Empty) (Option α)
  | .ok value => .ok (some value)
  | .error (error _) => .ok none
  | .error outOfMemory => .error outOfMemory

@[simp]
theorem lift_ok (value : α) : lift (.ok value : Except ε α) = .ok value := rfl

@[simp]
theorem lift_error (e : ε) : lift (.error e : Except ε α) = .error (error e) := rfl

/-- A result stays the same where no memory is needed for it. -/
theorem lift_eq_ok_iff {result : Except ε α} {value : α} :
    lift result = .ok value ↔ result = .ok value := by
  cases result <;> simp

end Failure

/-- Why parameters make no distribution. -/
inductive ParameterError (α : Type) where
  /-- A standard deviation is not positive. -/
  | nonPositiveStd (std : α)
  /-- A range has no inner points. -/
  | emptyRange (min max : α)
  /-- A width is not positive. -/
  | nonPositiveWidth (width : α)
  /-- A number of bins is not an integer of at least two. -/
  | tooFewBins (bins : α)
  /-- A bound of a logarithmic range is not positive. -/
  | nonPositiveBound (bound : α)
  /-- A mode lies outside of the range. -/
  | modeOutside (min mode max : α)
  /-- A parameter is infinite or NaN. -/
  | notFinite (name : String)
deriving DecidableEq

/-- The text of the error, numbers written by `text`. -/
def ParameterError.message {α : Type} (text : α → String) : ParameterError α → String
  | nonPositiveStd std => "standard deviation must be positive, got " ++ text std
  | emptyRange min max =>
    "empty range: min " ++ text min ++ " must be less than max " ++ text max
  | nonPositiveWidth width => "width must be positive, got " ++ text width
  | tooFewBins bins => "number of bins must be an integer of at least 2, got " ++ text bins
  | nonPositiveBound bound =>
    "bounds of a log-scaled distribution must be positive, got " ++ text bound
  | modeOutside min mode max =>
    "mode " ++ text mode ++ " lies outside [" ++ text min ++ ", " ++ text max ++ "]"
  | notFinite name => "parameter `" ++ name ++ "` is not a finite number"

/-- A distribution of a real number. -/
inductive Distribution (α : Type) where
  /-- A normal distribution. -/
  | normal (mean std : α)
  /-- The logarithm is normal with the given mean and standard deviation. -/
  | logNormal (mean std : α)
  /-- A normal distribution restricted to an interval, where it has the probability `mass`. -/
  | truncatedNormal (mean std min max mass : α)
  /-- All numbers of an interval alike. -/
  | uniform (min max : α)
  /-- The logarithm is uniform between those of the bounds. -/
  | logUniform (min max : α)
  /-- One number alone. -/
  | point (value : α)
  /-- The points of an even grid alike. -/
  | discreteUniform (bins : Nat) (min max : α) (masses : Masses α)
  /-- A transformed normal, scaled to an interval. -/
  | skewed (min max : α) (transform : SkewTransform α)
  /-- A transformed normal in bins. -/
  | discreteSkewed (masses : Masses α)
  /-- A triangular distribution. -/
  | triangular (triangle : Triangle α)
  /-- A beta distribution over an interval, shaped by its mode. -/
  | pert (min mode max : α)

namespace Distribution

open Elementary Scalar

variable {α : Type} [Elementary α]

/-! ### Parameters -/

/-- Refuses a parameter that is not finite. -/
def checkFinite (name : String) (x : α) : Except (ParameterError α) Unit :=
  if isFinite x then .ok () else .error (.notFinite name)

/-- Refuses a standard deviation that is not positive. -/
def checkStd (std : α) : Except (ParameterError α) Unit := do
  checkFinite "std" std
  if 0.0 < std then .ok () else .error (.nonPositiveStd std)

/-- Refuses bounds that leave no number between them. -/
def checkRange (min max : α) : Except (ParameterError α) Unit := do
  checkFinite "min" min
  checkFinite "max" max
  if min < max then .ok () else .error (.emptyRange min max)

/-- Refuses a mode outside of a range. -/
def checkMode (min mode max : α) : Except (ParameterError α) Unit := do
  checkRange min max
  checkFinite "mode" mode
  if within min max mode then .ok () else .error (.modeOutside min mode max)

/-- Reads a number of bins: an integer of at least two. -/
def binCount (bins : α) : Except (ParameterError α) Nat :=
  if isFinite bins && 2.0 ≤ bins && isWhole bins then .ok (count bins)
  else .error (.tooFewBins bins)

variable (α) in
/-- Asks for the memory of a list of `n` numbers. Only the length is looked at: what is not too long
for a list gets its memory. -/
def allocate (n : Nat) : Except (Failure (ParameterError α)) Unit :=
  if hasRoom α n then .ok () else .error .outOfMemory

/-- Reads the parameters of a skewed transformation. -/
def skewTransform (skewness width : α) : Except (ParameterError α) (SkewTransform α) := do
  checkFinite "skewness" skewness
  checkFinite "width" width
  if width ≤ 0.0 then .error (.nonPositiveWidth width) else .ok ⟨skewness, width⟩

/-- The normal distribution of a mean and a standard deviation. -/
def normal? (mean std : α) : Except (ParameterError α) (Distribution α) := do
  checkFinite "mean" mean
  checkStd std
  .ok (.normal mean std)

/-- The distribution whose logarithm is normal. -/
def logNormal? (mean std : α) : Except (ParameterError α) (Distribution α) := do
  checkFinite "mean" mean
  checkStd std
  .ok (.logNormal mean std)

/-- A normal distribution restricted to an interval. One that has no mass there that could be told
from zero is refused like an empty interval. -/
def truncatedNormal? (mean std min max : α) : Except (ParameterError α) (Distribution α) := do
  checkFinite "mean" mean
  checkStd std
  checkRange min max
  let mass := StandardNormal.cdf ((max - mean) / std) - StandardNormal.cdf ((min - mean) / std)
  if mass ≤ 0.0 then .error (.emptyRange min max)
  else .ok (.truncatedNormal mean std min max mass)

/-- The uniform distribution on an interval. -/
def uniform? (min max : α) : Except (ParameterError α) (Distribution α) := do
  checkRange min max
  .ok (.uniform min max)

/-- The distribution whose logarithm is uniform. -/
def logUniform? (min max : α) : Except (ParameterError α) (Distribution α) := do
  checkRange min max
  if min ≤ 0.0 then .error (.nonPositiveBound min) else .ok (.logUniform min max)

/-- The distribution of a constant. -/
def point? (value : α) : Except (ParameterError α) (Distribution α) := do
  checkFinite "value" value
  .ok (.point value)

/-- The uniform distribution on a grid. -/
def discreteUniform? (bins min max : α) : Except (Failure (ParameterError α)) (Distribution α) := do
  let n ← binCount bins
  checkRange min max
  allocate α n
  .ok (.discreteUniform n min max (Masses.uniform n min max))

/-- A transformed normal on an interval. -/
def skewed? (min max skewness width : α) : Except (ParameterError α) (Distribution α) := do
  checkRange min max
  let transform ← skewTransform skewness width
  .ok (.skewed min max transform)

/-- A transformed normal on a grid, for a normal with distribution function `Φ` and quantile
function `quantile`. -/
def discreteSkewedOf? (Φ quantile : α → α) (bins min max skewness width : α) :
    Except (Failure (ParameterError α)) (Distribution α) := do
  let n ← binCount bins
  checkRange min max
  let transform : SkewTransform α ← skewTransform skewness width
  allocate α n
  .ok (.discreteSkewed (transform.masses Φ quantile n min max))

/-- A transformed normal on a grid. -/
def discreteSkewed? (bins min max skewness width : α) :
    Except (Failure (ParameterError α)) (Distribution α) :=
  discreteSkewedOf? StandardNormal.cdf StandardNormal.quantile bins min max skewness width

/-- A triangular distribution. -/
def triangular? (min mode max : α) : Except (ParameterError α) (Distribution α) := do
  checkMode min mode max
  .ok (.triangular ⟨min, mode, max⟩)

/-- A beta distribution over an interval. -/
def pert? (min mode max : α) : Except (ParameterError α) (Distribution α) := do
  checkMode min mode max
  .ok (.pert min mode max)

/-! ### Skewed distributions -/

/-- The density of a transformed normal at `u`. -/
def skewPdf (transform : SkewTransform α) (u : α) : α :=
  if u ≤ 0.0 ∨ 1.0 ≤ u then 0.0
  else
    let z := StandardNormal.quantile u
    StandardNormal.pdf (transform.width * z - transform.skewness) * transform.width /
      StandardNormal.pdf z

/-- The quantile function of a transformed normal. -/
def skewQuantile (transform : SkewTransform α) (p : α) : α :=
  StandardNormal.cdf ((StandardNormal.quantile p + transform.skewness) / transform.width)

/-- How many quantiles the moments of a transformed normal are averaged over. -/
def quadraturePoints : Nat := 4000

/-- Evenly spread quantiles of a transformed normal, scaled to an interval. -/
def spreadQuantiles (min max : α) (transform : SkewTransform α) : List α :=
  (List.range quadraturePoints).map fun (i : Nat) =>
    min + (max - min) * skewQuantile transform (((i : α) + 0.5) / (quadraturePoints : α))

/-- The average of a list of quantiles. -/
def average (quantiles : List α) : α := sum quantiles / (quadraturePoints : α)

/-- The steps in which the mode of a transformed normal is searched. -/
def modeSteps : Nat := 2000

/-- The point of the highest density among evenly spread points; `fallback` if no density is
finite. -/
def peak (min max fallback : α) (density : α → α) : α :=
  let higher (best : Option (α × α)) (i : Nat) : Option (α × α) :=
    let x := min + (max - min) * (i : α) / (modeSteps : α)
    let y := density x
    if !isFinite y then best
    else match best with
      | none => some (x, y)
      | some (_, top) => if top < y then some (x, y) else best
  match ((List.range modeSteps).drop 1).foldl higher none with
  | some (x, _) => x
  | none => fallback

/-! ### Functions of a distribution -/

/-- The first shape parameter of a beta distribution over an interval. -/
def pertAlpha (min mode max : α) : α := 1.0 + 4.0 * (mode - min) / (max - min)

/-- The second shape parameter of a beta distribution over an interval. -/
def pertBeta (min mode max : α) : α := 1.0 + 4.0 * (max - mode) / (max - min)

/-- The density of a beta distribution over an interval. Where the logarithm of zero meets the
exponent zero the density counts as zero. -/
def pertPdf (min mode max x : α) : α :=
  let u := (x - min) / (max - min)
  if !within 0.0 1.0 u then 0.0
  else
    let a := pertAlpha min mode max
    let b := pertBeta min mode max
    let density :=
      exp ((a - 1.0) * log u + (b - 1.0) * log (1.0 - u) - Beta.logBeta a b) / (max - min)
    if density ≤ density then density else 0.0

/-- The distribution function of a beta distribution over an interval. -/
def pertCdf (min mode max x : α) : α :=
  Beta.regularized ((x - min) / (max - min)) (pertAlpha min mode max) (pertBeta min mode max)

/-- The density; of a discrete distribution, the probability of a point. -/
def pdf : Distribution α → α → α
  | normal mean std, x => StandardNormal.pdf ((x - mean) / std) / std
  | logNormal mean std, x =>
    if x ≤ 0.0 then 0.0 else StandardNormal.pdf ((log x - mean) / std) / (x * std)
  | truncatedNormal mean std min max mass, x =>
    if x < min ∨ max < x then 0.0 else StandardNormal.pdf ((x - mean) / std) / (std * mass)
  | uniform min max, x => if within min max x then 1.0 / (max - min) else 0.0
  | logUniform min max, x =>
    if within min max x then 1.0 / (x * log (max / min)) else 0.0
  | point value, x => if same x value then 1.0 else 0.0
  | discreteUniform _ _ _ masses, x => masses.pdf x
  | skewed min max transform, x =>
    skewPdf transform ((x - min) / (max - min)) / (max - min)
  | discreteSkewed masses, x => masses.pdf x
  | triangular t, x => t.pdf x
  | pert min mode max, x => pertPdf min mode max x

/-- The distribution function: the probability of the numbers up to `x`. -/
def cdf : Distribution α → α → α
  | normal mean std, x => StandardNormal.cdf ((x - mean) / std)
  | logNormal mean std, x =>
    if x ≤ 0.0 then 0.0 else StandardNormal.cdf ((log x - mean) / std)
  | truncatedNormal mean std min max mass, x =>
    if x ≤ min then 0.0
    else if max ≤ x then 1.0
    else (StandardNormal.cdf ((x - mean) / std) - StandardNormal.cdf ((min - mean) / std)) / mass
  | uniform min max, x => clamp 0.0 1.0 ((x - min) / (max - min))
  | logUniform min max, x =>
    if x ≤ min then 0.0 else smaller (log (x / min) / log (max / min)) 1.0
  | point value, x => if value ≤ x then 1.0 else 0.0
  | discreteUniform _ _ _ masses, x => masses.cdf x
  | skewed min max transform, x =>
    transform.cdf StandardNormal.cdf StandardNormal.quantile ((x - min) / (max - min))
  | discreteSkewed masses, x => masses.cdf x
  | triangular t, x => t.cdf x
  | pert min mode max, x => pertCdf min mode max x

/-- The quantile function: the inverse of the distribution function. -/
def quantile : Distribution α → α → α
  | normal mean std, p => mean + std * StandardNormal.quantile p
  | logNormal mean std, p => exp (mean + std * StandardNormal.quantile p)
  | truncatedNormal mean std min max mass, p =>
    let u := StandardNormal.cdf ((min - mean) / std) + clamp 0.0 1.0 p * mass
    clamp min max (mean + std * StandardNormal.quantile u)
  | uniform min max, p => min + clamp 0.0 1.0 p * (max - min)
  | logUniform min max, p => min * pow (max / min) (clamp 0.0 1.0 p)
  | point value, _ => value
  | discreteUniform _ _ _ masses, p => masses.quantile p
  | skewed min max transform, p => min + (max - min) * skewQuantile transform p
  | discreteSkewed masses, p => masses.quantile p
  | triangular t, p => t.quantile sqrt p
  | pert min mode max, p => bisectInverse (pertCdf min mode max) min max p

/-- The mean. -/
def mean : Distribution α → α
  | normal mean _ => mean
  | logNormal mean std => exp (mean + 0.5 * std * std)
  | truncatedNormal mean std min max mass =>
    mean + std * (StandardNormal.pdf ((min - mean) / std) -
      StandardNormal.pdf ((max - mean) / std)) / mass
  | uniform min max => 0.5 * (min + max)
  | logUniform min max => (max - min) / log (max / min)
  | point value => value
  | discreteUniform _ min max _ => 0.5 * (min + max)
  | skewed min max transform => average (spreadQuantiles min max transform)
  | discreteSkewed masses => masses.mean
  | triangular t => t.mean
  | pert min mode max => (min + 4.0 * mode + max) / 6.0

/-- The median. -/
def median : Distribution α → α
  | normal mean _ => mean
  | logNormal mean _ => exp mean
  | logUniform min max => sqrt (min * max)
  | d => d.quantile 0.5

/-- The most probable number; the smallest of several that can be told apart. -/
def mode : Distribution α → α
  | normal mean _ => mean
  | logNormal mean std => exp (mean - std * std)
  | truncatedNormal mean _ min max _ => clamp min max mean
  | uniform min _ => min
  | logUniform min _ => min
  | point value => value
  | discreteUniform _ min _ _ => min
  | d@(skewed min max _) => peak min max d.median d.pdf
  | discreteSkewed masses => masses.mode
  | triangular t => t.mode
  | pert _ mode _ => mode

/-- The variance. -/
def variance : Distribution α → α
  | normal _ std => std * std
  | logNormal mean std =>
    let s₂ := std * std
    (exp s₂ - 1.0) * exp (2.0 * mean + s₂)
  | truncatedNormal mean std min max mass =>
    let a := (min - mean) / std
    let b := (max - mean) / std
    let pa := StandardNormal.pdf a
    let pb := StandardNormal.pdf b
    let shift := (pa - pb) / mass
    std * std * (1.0 + (a * pa - b * pb) / mass - shift * shift)
  | uniform min max => square (max - min) / 12.0
  | logUniform min max =>
    let ratio := log (max / min)
    let mean := (max - min) / ratio
    (max * max - min * min) / (2.0 * ratio) - mean * mean
  | point _ => 0.0
  | discreteUniform bins min max _ =>
    let n : α := (bins : α)
    square (max - min) * (n + 1.0) / (12.0 * (n - 1.0))
  | skewed min max transform =>
    let quantiles := spreadQuantiles min max transform
    let mean := average quantiles
    average (quantiles.map fun q => square (q - mean))
  | discreteSkewed masses => masses.variance
  | triangular t => t.variance
  | pert min mode max =>
    let mean := (min + 4.0 * mode + max) / 6.0
    (mean - min) * (max - mean) / 7.0

/-- The standard deviation. -/
def std : Distribution α → α
  | normal _ std => std
  | d => sqrt d.variance

/-- The name of a family. -/
def familyName : Distribution α → String
  | normal _ _ => "normal"
  | logNormal _ _ => "logNormal"
  | truncatedNormal _ _ _ _ _ => "truncatedNormal"
  | uniform _ _ => "uniform"
  | logUniform _ _ => "logUniform"
  | point _ => "dirac"
  | discreteUniform _ _ _ _ => "discreteUniform"
  | skewed _ _ _ => "errorSkewedNormal"
  | discreteSkewed _ => "discreteErrorSkewedNormal"
  | triangular _ => "triangular"
  | pert _ _ _ => "pert"

/-- The points of a discrete distribution on a grid. -/
def support? : Distribution α → Option (List α)
  | discreteUniform _ _ _ masses => some masses.support
  | discreteSkewed masses => some masses.support
  | _ => none

end Distribution

end EnsembleDesk

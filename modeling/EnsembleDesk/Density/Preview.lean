import EnsembleDesk.Density.Family
import EnsembleDesk.Line.Prior
/-!
# Previews of priors

A line that defines a prior becomes a preview: the distribution, the range over which its density is
shown, whether that range is logarithmic, and the points at which the density is evaluated when the
distribution is discrete.
-/

namespace EnsembleDesk

/-- How numbers are spread along an axis. -/
inductive AxisScale where
  /-- Evenly. -/
  | linear
  /-- Evenly in their logarithms. -/
  | log
deriving DecidableEq

/-- The name of a scale. -/
def AxisScale.name : AxisScale → String
  | linear => "linear"
  | log => "log"

/-- Where a density is evaluated. -/
inductive Sampling (α : Type) where
  /-- At points spread over the range. -/
  | continuous
  /-- At the points of a discrete distribution. -/
  | points (points : List α)

/-- What there is to show of a prior. -/
structure Preview (α : Type) where
  /-- The label of the keyword. -/
  keyword : String
  /-- The distribution. -/
  distribution : Distribution α
  /-- The ends of the range that is shown. -/
  domain : α × α
  /-- The scale of the range. -/
  scale : AxisScale := .linear
  /-- Where the density is evaluated. -/
  sampling : Sampling α := .continuous

/-- Why there is no preview. -/
inductive PreviewError (α : Type) where
  /-- The line does not define a prior. -/
  | invalid
  /-- The keyword has no density. -/
  | notPlottable (keyword : String)
  /-- The numbers make no distribution. -/
  | parameters (error : ParameterError α)
deriving DecidableEq

namespace Preview

open Elementary Scalar

variable {α : Type} [Elementary α]

/-- The number in a place of the list of arguments. -/
def argument (numbers : List α) (i : Nat) : Except (Failure (PreviewError α)) α :=
  match numbers[i]? with
  | some x => .ok x
  | none => .error (.error .invalid)

/-- A distribution, or the reason why there is none. -/
def checked (result : Except (Failure (ParameterError α)) (Distribution α)) :
    Except (Failure (PreviewError α)) (Distribution α) :=
  result.mapError (.map .parameters)

/-- Half the width of the range around a constant: a hundredth of its size. -/
def constantMargin (value : α) : α :=
  if same value 0.0 then 0.001 else magnitude value / 100.0

/-- The preview of a keyword with the numbers after it. -/
def build (label : String) (numbers : List α) :
    Except (Failure (PreviewError α)) (Preview α) := do
  let arg := argument numbers
  match label with
  | "NORMAL" =>
    let mean ← arg 0
    let std ← arg 1
    let d ← checked (Distribution.normal? mean std)
    .ok { keyword := label, distribution := d, domain := (mean - 6.0 * std, mean + 6.0 * std) }
  | "LOGNORMAL" =>
    let d ← checked (Distribution.logNormal? (← arg 0) (← arg 1))
    .ok { keyword := label, distribution := d, domain := (d.quantile 0.001, d.quantile 0.999),
          scale := .log }
  | "TRUNCATED_NORMAL" =>
    let min ← arg 2
    let max ← arg 3
    let d ← checked (Distribution.truncatedNormal? (← arg 0) (← arg 1) min max)
    .ok { keyword := label, distribution := d, domain := (min, max) }
  | "UNIFORM" =>
    let min ← arg 0
    let max ← arg 1
    let d ← checked (Distribution.uniform? min max)
    .ok { keyword := label, distribution := d, domain := (min, max) }
  | "LOGUNIF" =>
    let min ← arg 0
    let max ← arg 1
    let d ← checked (Distribution.logUniform? min max)
    .ok { keyword := label, distribution := d, domain := (min, max), scale := .log }
  | "CONST" =>
    let value ← arg 0
    let margin := constantMargin value
    let d ← checked (Distribution.point? value)
    .ok { keyword := label, distribution := d, domain := (value - margin, value + margin),
          sampling := .points [value] }
  | "DUNIF" =>
    let bins ← arg 0
    let min ← arg 1
    let max ← arg 2
    if same bins 1.0 then
      -- A single bin has no step; the continuous range is shown instead.
      let d ← checked (Distribution.uniform? min max)
      .ok { keyword := label, distribution := d, domain := (min, max) }
    else
      let d ← checked (Distribution.discreteUniform? bins min max)
      .ok { keyword := label, distribution := d, domain := (min, max),
            sampling := .points (d.support?.getD []) }
  | "ERRF" =>
    let min ← arg 0
    let max ← arg 1
    let d ← checked (Distribution.skewed? min max (← arg 2) (← arg 3))
    .ok { keyword := label, distribution := d, domain := (min, max) }
  | "DERRF" =>
    let min ← arg 1
    let max ← arg 2
    let d ← checked (Distribution.discreteSkewed? (← arg 0) min max (← arg 3) (← arg 4))
    .ok { keyword := label, distribution := d, domain := (min, max),
          sampling := .points (d.support?.getD []) }
  | "TRIANGULAR" =>
    let min ← arg 0
    let max ← arg 2
    let d ← checked (Distribution.triangular? min (← arg 1) max)
    .ok { keyword := label, distribution := d, domain := (min, max) }
  | _ => .error (.error (.notPlottable label))

end Preview

/-- The number that a token writes. -/
def Token.number? (token : Token) : Option Binary64 :=
  Binary64.read? token.text.toList

/-- The preview of the prior that the tokens of a line define. -/
def previewOfTokens (tokens : List Token) :
    Except (Failure (PreviewError Float)) (Preview Float) :=
  match PriorLine.ofTokens? tokens with
  | none => .error (.error .invalid)
  | some line =>
    match line.numbers.mapM Token.number? with
    | none => .error (.error .invalid)
    | some numbers => Preview.build line.keyword.label (numbers.map Binary64.toFloat)

end EnsembleDesk

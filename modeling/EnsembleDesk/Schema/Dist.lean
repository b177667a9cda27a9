import EnsembleDesk.Schema.Basic
/-!
# Keywords of a prior

The keyword table of the DIST language, whose lines assign a prior to a parameter: a name, a
keyword and the numbers the keyword counts.
-/

namespace EnsembleDesk

namespace Schema

/-- The keywords of the language of priors. -/
def distKeywords : List Keyword :=
  [{ label := "NORMAL",
      usage := "mean std",
      documentation := "Normal distribution with the given mean and standard " ++
        "deviation.\n\n`std` must be strictly positive.",
      signature := .count 2, numerical := true },
   { label := "LOGNORMAL",
      usage := "mean std",
      documentation := "Log-normal distribution: the logarithm of the value is normally " ++
        "distributed with mean `mean` and standard deviation `std`.",
      signature := .count 2, numerical := true },
   { label := "TRUNCATED_NORMAL",
      usage := "mean std min max",
      documentation := "Normal distribution truncated to the interval `[min, max]`.",
      signature := .count 4, numerical := true },
   { label := "UNIFORM",
      usage := "min max",
      documentation := "Uniform distribution on `[min, max]`. Requires `min < max`.",
      signature := .count 2, numerical := true },
   { label := "LOGUNIF",
      usage := "min max",
      documentation := "Log-uniform distribution: the logarithm of the value is uniform on " ++
        "`[ln(min), ln(max)]`. Both bounds must be positive.",
      signature := .count 2, numerical := true },
   { label := "CONST",
      usage := "value",
      documentation := "A constant; every realization gets exactly `value`.",
      signature := .count 1, numerical := true },
   { label := "DUNIF",
      usage := "nbins min max",
      documentation := "Discrete uniform distribution over `nbins` equally spaced values from " ++
        "`min` to `max`.",
      signature := .count 3, numerical := true },
   { label := "ERRF",
      usage := "min max skewness width",
      documentation := "Error-function transformed normal on `(min, max)`. `skewness` shifts " ++
        "the mass towards one of the bounds, `width` controls the peakedness and must be " ++
        "positive.",
      signature := .count 4, numerical := true },
   { label := "DERRF",
      usage := "nbins min max skewness width",
      documentation := "Discrete variant of `ERRF` with `nbins` equally spaced values.",
      signature := .count 5, numerical := true },
   { label := "TRIANGULAR",
      usage := "min mode max",
      documentation := "Triangular distribution with lower bound `min`, peak `mode` and upper " ++
        "bound `max`.",
      signature := .count 3, numerical := true },
   { label := "RAW",
      usage := "",
      documentation := "The value is sampled by an external process; no prior is applied.",
      signature := .count 0, numerical := true }]

end Schema

end EnsembleDesk

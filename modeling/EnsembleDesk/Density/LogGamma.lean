import EnsembleDesk.Density.ErrorFunction
/-!
# The logarithm of the gamma function

`logGamma x` is the logarithm of the magnitude of `Γ x`. Below two it is a polynomial or a rational
function around the nearest of three centres, after one step of the recurrence when `x` is below
0.9; up to eight the recurrence leads back to `[2, 3]`; beyond eight an asymptotic series is used,
and a negative argument is reflected. At one and at two the result is exactly zero.
-/

namespace EnsembleDesk

namespace LogGamma

/-- The number nearest to `π`. -/
def pi : Float := 3.14159265358979311600e+00

/-- Around one and two: the logarithm of `Γ (2 - y)`. -/
def aroundTwo (y : Float) : Float :=
  let z := y * y
  let p₁ := polynomial [7.72156649015328655494e-02, 6.73523010531292681824e-02,
    7.38555086081402883957e-03, 1.19270763183362067845e-03, 2.20862790713908385557e-04,
    2.52144565451257326939e-05] z
  let p₂ := z * polynomial [3.22467033424113591611e-01, 2.05808084325167332806e-02,
    2.89051383673415629091e-03, 5.10069792153511336608e-04, 1.08011567247583939954e-04,
    4.48640949618915160150e-05] z
  y * p₁ + p₂ - 0.5 * y

/-- The place of the minimum of the gamma function on the positive numbers. -/
def minimumPlace : Float := 1.46163214496836224576e+00

/-- Around the minimum: the logarithm of `Γ (minimumPlace + y)`. -/
def aroundMinimum (y : Float) : Float :=
  let z := y * y
  let w := z * y
  let p₁ := polynomial [4.83836122723810047042e-01, -3.27885410759859649565e-02,
    6.10053870246291332635e-03, -1.40346469989232843813e-03, 3.15632070903625950361e-04] w
  let p₂ := polynomial [-1.47587722994593911752e-01, 1.79706750811820387126e-02,
    -3.68452016781138256760e-03, 8.81081882437654011382e-04, -3.12754168375120860518e-04] w
  let p₃ := polynomial [6.46249402391333854778e-02, -1.03142241298341437450e-02,
    2.25964780900612472250e-03, -5.38595305356740546715e-04, 3.35529192635519073543e-04] w
  let p := z * p₁ - (-3.63867699703950536541e-18 - w * (p₂ + y * p₃))
  p - 1.21486290535849611461e-01

/-- Above one: the logarithm of `Γ (1 + y)`. -/
def aboveOne (y : Float) : Float :=
  let p₁ := y * polynomial [-7.72156649015328655494e-02, 6.32827064025093366517e-01,
    1.45492250137234768737e+00, 9.77717527963372745603e-01, 2.28963728064692451092e-01,
    1.33810918536787660377e-02] y
  let p₂ := polynomial [1.0, 2.45597793713041134822e+00, 2.12848976379893395361e+00,
    7.69285150456672783825e-01, 1.04222645593369134254e-01, 3.21709242282423911810e-03] y
  p₁ / p₂ - 0.5 * y

/-- Above two: the logarithm of `Γ (2 + y)`. -/
def aboveTwo (y : Float) : Float :=
  let p := y * polynomial [-7.72156649015328655494e-02, 2.14982415960608852501e-01,
    3.25778796408930981787e-01, 1.46350472652464452805e-01, 2.66422703033638609560e-02,
    1.84028451407337715652e-03, 3.19475326584100867617e-05] y
  let q := polynomial [1.0, 1.39200533467621045958e+00, 7.21935547567138069525e-01,
    1.71933865632803078993e-01, 1.86459191715652901344e-02, 7.77942496381893596434e-04,
    7.32668430744625636189e-06] y
  0.5 * y + p / q

/-- The product `(y + 2) (y + 3) … (y + n - 1)`, multiplied from its last factor on. -/
def risingProduct (y : Float) (n : Nat) : Float :=
  (List.range' 2 (n - 2)).foldr (fun k product => product * (y + Float.ofNat k)) 1.0

/-- The asymptotic series beyond eight. -/
def series (x : Float) : Float :=
  let z := 1.0 / x
  let y := z * z
  let w := 4.18938533204672725052e-01 + z * polynomial [8.33333333333329678849e-02,
    -2.77777777728775536470e-03, 7.93650558643019558500e-04, -5.95187557450339963135e-04,
    8.36339918996282139126e-04, -1.63092934096575273989e-03] y
  (x - 0.5) * (Float.log x - 1.0) + w

/-- The logarithm of the gamma function of a positive number. -/
def ofPositive (x : Float) : Float :=
  let h := ErrorFunction.highWord x
  if x == 1.0 || x == 2.0 then 0.0
  else if h ≤ 0x3feccccc then
    -Float.log x +
      (if 0x3fe76944 ≤ h then aroundTwo (1.0 - x)
      else if 0x3fcda661 ≤ h then aroundMinimum (x - (minimumPlace - 1.0))
      else aboveOne x)
  else if h < 0x40000000 then
    if 0x3ffbb4c3 ≤ h then aroundTwo (2.0 - x)
    else if 0x3ff3b4c4 ≤ h then aroundMinimum (x - minimumPlace)
    else aboveOne (x - 1.0)
  else if h < 0x40200000 then
    let n := x.toUInt64.toNat
    let y := x - Float.ofNat n
    aboveTwo y + (if 2 < n then Float.log (risingProduct y n) else 0.0)
  else if h < 0x43900000 then series x
  else x * (Float.log x - 1.0)

end LogGamma

/-- The logarithm of the magnitude of the gamma function. -/
def logGamma (x : Float) : Float :=
  if x.isNaN || x.isInf then x * x
  else if ErrorFunction.highWord x < 0x3b900000 then -Float.log x.abs
  else if x < 0.0 then
    let t := (Float.sin (LogGamma.pi * (x - x.floor))).abs
    if t == 0.0 then 1.0 / 0.0
    else Float.log (LogGamma.pi / (t * -x)) - LogGamma.ofPositive (-x)
  else LogGamma.ofPositive x

end EnsembleDesk

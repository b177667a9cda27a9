/-!
# The complementary error function

`erfc` is evaluated by a rational function on each of four intervals of the magnitude: near zero,
around one, up to `1 / 0.35`, and beyond, where the factor `exp (-x²)` is split so that squaring
loses no digits. The error is below one unit in the last place.
-/

namespace EnsembleDesk

/-- Evaluates a polynomial, its coefficients given from the constant one on. -/
def polynomial (coefficients : List Float) (x : Float) : Float :=
  coefficients.foldr (fun c value => c + x * value) 0.0

namespace ErrorFunction

/-- A quotient of two polynomials. -/
def rational (numerator denominator : List Float) (x : Float) : Float :=
  polynomial numerator x / polynomial denominator x

/-- The upper half of the bits of a number, which its comparisons with the limits use. -/
def highWord (x : Float) : Nat := (x.toBits >>> 32).toNat % 2147483648

/-- The number with the lower half of its bits cleared. -/
def clearLowWord (x : Float) : Float := Float.ofBits (x.toBits &&& 0xffffffff00000000)

/-- `(erf x - x) / x` on `[0, 0.84375]`, as a function of `x²`. -/
def nearZero (z : Float) : Float :=
  rational
    [1.28379167095512558561e-01, -3.25042107247001499370e-01, -2.84817495755985104766e-02,
      -5.77027029648944159157e-03, -2.37630166566501626084e-05]
    [1.0, 3.97917223959155352819e-01, 6.50222499887672944485e-02, 5.08130628187576562776e-03,
      1.32494738004321644526e-04, -3.96022827877536812320e-06] z

/-- `erf x` around one. -/
def middle : Float := 8.45062911510467529297e-01

/-- `erf x - middle` on `[0.84375, 1.25]`, as a function of `x - 1`. -/
def aroundOne (s : Float) : Float :=
  rational
    [-2.36211856075265944077e-03, 4.14856118683748331666e-01, -3.72207876035701323847e-01,
      3.18346619901161753674e-01, -1.10894694282396677476e-01, 3.54783043256182359371e-02,
      -2.16637559486879084300e-03]
    [1.0, 1.06420880400844228286e-01, 5.40397917702171048937e-01, 7.18286544141962662868e-02,
      1.26171219808761642112e-01, 1.36370839120290507362e-02, 1.19844998467991074170e-02] s

/-- `ln (x exp (x² + 0.5625) erfc x)` on `[1.25, 1 / 0.35]`, as a function of `1 / x²`. -/
def nearTail (s : Float) : Float :=
  rational
    [-9.86494403484714822705e-03, -6.93858572707181764372e-01, -1.05586262253232909814e+01,
      -6.23753324503260060396e+01, -1.62396669462573470355e+02, -1.84605092906711035994e+02,
      -8.12874355063065934246e+01, -9.81432934416914548592e+00]
    [1.0, 1.96512716674392571292e+01, 1.37657754143519042600e+02, 4.34565877475229228821e+02,
      6.45387271733267880336e+02, 4.29008140027567833386e+02, 1.08635005541779435134e+02,
      6.57024977031928170135e+00, -6.04244152148580987438e-02] s

/-- The same beyond `1 / 0.35`. -/
def farTail (s : Float) : Float :=
  rational
    [-9.86494292470009928597e-03, -7.99283237680523006574e-01, -1.77579549177547519889e+01,
      -1.60636384855821916062e+02, -6.37566443368389627722e+02, -1.02509513161107724954e+03,
      -4.83519191608651397019e+02]
    [1.0, 3.03380607434824582924e+01, 3.25792512996573918826e+02, 1.53672958608443695994e+03,
      3.19985821950859553908e+03, 2.55305040643316442583e+03, 4.74528541206955367215e+02,
      -2.24409524465858183362e+01] s

/-- `erfc x` for `x` of at least 0.84375. -/
def upper (x : Float) : Float :=
  if highWord x < 0x3ff40000 then 1.0 - middle - aroundOne (x - 1.0)
  else
    let s := 1.0 / (x * x)
    let r := if highWord x < 0x4006db6d then nearTail s else farTail s
    let z := clearLowWord x
    Float.exp (-z * z - 0.5625) * Float.exp ((z - x) * (z + x) + r) / x

end ErrorFunction

open ErrorFunction in
/-- The complementary error function. -/
def erfc (x : Float) : Float :=
  let h := highWord x
  if x.isNaN then x
  else if h < 0x3feb0000 then
    if h < 0x3c700000 then 1.0 - x
    else
      let y := nearZero (x * x)
      if x < 0.25 then 1.0 - (x + x * y) else 0.5 - (x - 0.5 + x * y)
  else if h < 0x403c0000 then
    if x < 0.0 then 2.0 - upper (-x) else upper x
  else if x < 0.0 then 2.0 else 0.0

end EnsembleDesk

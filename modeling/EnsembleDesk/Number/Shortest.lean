import EnsembleDesk.Number.Decimal
/-!
# The shortest decimal that reads back

`Binary64.shortest ties rank` is the decimal number with the fewest digits that rounds to the number
of that rank, and of those the nearest to it; when two are equally near, the `TieRule` decides. The
candidates with `n` digits are the two neighbours of the exact value on the grid of `n`-digit
decimals, so that at most seventeen grids are searched; the exact expansion, which always reads
back, closes the search.
-/

namespace EnsembleDesk

namespace Decimal

/-- The digits of a natural number in base ten. -/
def digitsOf (n : Nat) : List Char := Nat.toDigits 10 n

/-- The largest `p` with `10 ^ p ≤ num / den`, for a positive quotient. -/
def quotientLog10 (num den : Nat) : Int :=
  let k : Int := ((digitsOf num).length : Int) - (digitsOf den).length
  let reached : Bool :=
    if 0 ≤ k then den * Nat.pow 10 k.toNat ≤ num else den ≤ num * Nat.pow 10 (-k).toNat
  if reached then k else k - 1

/-- The quotient `num / den` in units of `10 ^ k`, as a quotient of natural numbers. -/
def inUnits (num den : Nat) (k : Int) : Nat × Nat :=
  if 0 ≤ k then (num, den * Nat.pow 10 k.toNat) else (num * Nat.pow 10 (-k).toNat, den)

/-- Moves up to `fuel` trailing zeros of the coefficient into the exponent. -/
def stripZeros : Nat → Decimal → Decimal
  | 0, d => d
  | fuel + 1, d =>
    if d.coefficient % 10 = 0 then
      stripZeros fuel { d with coefficient := d.coefficient / 10, exponent := d.exponent + 1 }
    else d

end Decimal

/-- Which of two equally near decimal numbers is taken. -/
inductive TieRule where
  /-- The larger one. -/
  | larger
  /-- The one whose last digit is even. -/
  | even
deriving DecidableEq, Inhabited

/-- Whether `q + r / d`, for `r < d`, is nearer to `q + 1` than to `q`, or is taken to it as a
tie. -/
def TieRule.takesNext (ties : TieRule) (q r d : Nat) : Bool :=
  if 2 * r = d then
    match ties with
    | larger => true
    | even => q % 2 == 1
  else d < 2 * r

namespace Binary64

/-- Whether an unsigned decimal number is nearest to the number of rank `rank`. -/
def readsBack (rank : Nat) (d : Decimal) : Bool :=
  d.toBinary64 = ofRank false rank

/-- The neighbour of `num / den` on the grid of multiples of `10 ^ k` that reads back, the nearer
one if both do. -/
def gridNeighbour? (ties : TieRule) (rank num den : Nat) (k : Int) : Option Decimal :=
  let (n, d) := Decimal.inUnits num den k
  let below : Decimal := ⟨false, n / d, k⟩
  let above : Decimal := ⟨false, n / d + 1, k⟩
  if readsBack rank below then
    if readsBack rank above && ties.takesNext (n / d) (n % d) d then some above else some below
  else if readsBack rank above then some above
  else none

/-- The exact decimal expansion of the number of a finite rank. -/
def exactDecimal (rank : Nat) : Decimal :=
  let e := scale rank
  if 0 ≤ e then ⟨false, mantissa rank * Nat.pow 2 e.toNat, 0⟩
  else ⟨false, mantissa rank * Nat.pow 5 (-e).toNat, e⟩

/-- Searches `grids` grids, the first of unit `10 ^ k` and each ten times finer than the last. -/
def searchGrids (ties : TieRule) (rank num den : Nat) : Nat → Int → Decimal
  | 0, _ => exactDecimal rank
  | grids + 1, k =>
    (gridNeighbour? ties rank num den k).getD (searchGrids ties rank num den grids (k - 1))

/-- The decimal with the fewest digits that reads back as the number of a finite rank. -/
def shortest (ties : TieRule) (rank : Nat) : Decimal :=
  if rank = 0 then ⟨false, 0, 0⟩
  else
    let (num, den) := magnitude rank
    Decimal.stripZeros 20 (searchGrids ties rank num den 17 (Decimal.quotientLog10 num den))

end Binary64

end EnsembleDesk

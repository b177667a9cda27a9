import EnsembleDesk.Number.Shortest
/-!
# Written numbers

How a number is laid out as text. `Binary64.plain` writes the shortest digits that read back,
never with an exponent, and of two that are equally near the larger. `Binary64.json` writes them as
a JSON number that is recognisably not an integer, and of two that are equally near those that end
in an even digit. `Binary64.fixed` and `Binary64.scientific` round the exact value to a number of
places or digits, ties to even.
-/

namespace EnsembleDesk

/-- A run of zeros. -/
def zeros (n : Nat) : List Char := List.replicate n '0'

/-- The text of a natural number. -/
def natText (n : Nat) : String := String.ofList (Decimal.digitsOf n)

/-- The text of an integer. -/
def intText (n : Int) : String :=
  if n < 0 then "-" ++ natText n.natAbs else natText n.natAbs

/-- Writes `digits * 10 ^ exponent` positionally. -/
def positional (digits : List Char) (exponent : Int) : List Char :=
  let point := (digits.length : Int) + exponent
  if 0 ≤ exponent then digits ++ zeros exponent.toNat
  else if 0 < point then digits.take point.toNat ++ '.' :: digits.drop point.toNat
  else '0' :: '.' :: zeros (-point).toNat ++ digits

/-- Writes `digits` with the point after the first one. -/
def leadingDigit : List Char → List Char
  | [] => []
  | [d] => [d]
  | d :: rest => d :: '.' :: rest

namespace Binary64

/-- Writes a number's sign and special values, leaving the magnitude of a finite one to `body`. -/
def layout (body : Nat → List Char) : Binary64 → String
  | nan => "NaN"
  | signed negative rank =>
    String.ofList ((if negative then ['-'] else []) ++
      (if rank.val = infiniteRank then ['i', 'n', 'f'] else body rank.val))

/-- The shortest digits that read back, positionally: no exponent and no superfluous zero. -/
def plain (x : Binary64) : String :=
  x.layout fun rank =>
    let d := shortest .larger rank
    positional (Decimal.digitsOf d.coefficient) d.exponent

/-- A finite number as a JSON number: the shortest digits, with at least one fraction digit when
the first digit stands between `10 ^ -5` and `10 ^ 15`, in exponent form otherwise. -/
def json (x : Binary64) : String :=
  x.layout fun rank =>
    let d := shortest .even rank
    let digits := Decimal.digitsOf d.coefficient
    let first := (digits.length : Int) - 1 + d.exponent
    if -5 ≤ first && first ≤ 15 then
      positional digits d.exponent ++ (if 0 ≤ d.exponent then ['.', '0'] else [])
    else
      leadingDigit digits ++ 'e' :: (if 0 ≤ first then ['+'] else []) ++ (intText first).toList

/-- The exact value rounded to a number of decimal places. -/
def fixed (places : Nat) (x : Binary64) : String :=
  x.layout fun rank =>
    let (num, den) := magnitude rank
    let digits := Decimal.digitsOf (roundQuotient (num * Nat.pow 10 places) den)
    if places = 0 then digits
    else
      let padded := zeros (places + 1 - digits.length) ++ digits
      padded.take (padded.length - places) ++ '.' :: padded.drop (padded.length - places)

/-- The exact value rounded to one leading digit and a number of further ones, in exponent form. -/
def scientific (places : Nat) (x : Binary64) : String :=
  x.layout fun rank =>
    if rank = 0 then leadingDigit (zeros (places + 1)) ++ ['e', '0']
    else
      let (num, den) := magnitude rank
      let power := Decimal.quotientLog10 num den
      let (n, d) := Decimal.inUnits num den (power - places)
      let rounded := roundQuotient n d
      let (rounded, power) :=
        if rounded = Nat.pow 10 (places + 1) then (Nat.pow 10 places, power + 1)
        else (rounded, power)
      leadingDigit (Decimal.digitsOf rounded) ++ 'e' :: (intText power).toList

end Binary64

end EnsembleDesk

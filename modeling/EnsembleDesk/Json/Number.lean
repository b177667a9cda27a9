import EnsembleDesk.Number.Decimal
/-!
# JSON numbers

`WrittenNumber` is a number as a JSON document writes it, `WrittenNumber.value?` the number that a
reader takes it for. A number without fraction or exponent that fits 64 bits is an integer.

Every other number is a significand scaled by a power of ten, in two steps that each round: as many
digits as fit 64 bits are gathered into the significand, which is taken to the nearest binary64
number, and that number is multiplied or divided by the binary64 number nearest to the power of
ten. So the result is close to the number that is written, but it need not be the nearest one.
-/

namespace EnsembleDesk

/-- A number of a JSON document: an integer of 64 bits, or a binary64 number. -/
inductive JsonNumber where
  /-- An integer from `-2 ^ 63` up to, but not including, `2 ^ 64`. -/
  | integer (value : Int)
  /-- A number written with a fraction or an exponent, or outside the range of integers. -/
  | float (value : Binary64)
deriving DecidableEq, Inhabited

namespace JsonNumber

/-- The number as a binary64 number. -/
def toBinary64 : JsonNumber → Binary64
  | integer n => Binary64.ofInt n
  | float x => x

/-- The value of an integer; a number with a fraction or an exponent is none. -/
def integer? : JsonNumber → Option Int
  | integer n => some n
  | float _ => none

/-- An index or count: an integer that fits 32 bits without a sign. -/
def word? (number : JsonNumber) : Option (Fin 4294967296) :=
  number.integer?.bind fun n =>
    if h : 0 ≤ n ∧ n < 4294967296 then some ⟨n.toNat, by omega⟩ else none

end JsonNumber

/-- A number as it is written. -/
structure WrittenNumber where
  /-- Whether there is a minus sign. -/
  negative : Bool
  /-- The digits in front of the point. -/
  whole : List Char
  /-- The digits after the point; none if there is no point. -/
  fraction : List Char
  /-- The exponent, if there is one. -/
  power : Option Int
deriving DecidableEq, Inhabited

/-! ### Scaling by powers of ten -/

namespace Binary64

/-- The rank nearest to `10 ^ n`. -/
def tenRank (n : Nat) : Nat := rankOfRatio (Nat.pow 10 n) 1

/-- The rank nearest to the product of the number of a finite rank and the number nearest to
`10 ^ n`, for `n ≤ 308`. -/
def timesTen (rank n : Nat) : Nat :=
  let (a, b) := magnitude rank
  let (c, d) := magnitude (tenRank n)
  rankOfRatio (a * c) (b * d)

/-- The rank nearest to the quotient of the number of a finite rank and the number nearest to
`10 ^ n`, for `n ≤ 308`. -/
def overTen (rank n : Nat) : Nat :=
  let (a, b) := magnitude rank
  let (c, d) := magnitude (tenRank n)
  rankOfRatio (a * d) (b * c)

/-- The number of rank `rank`, the nearest to a significand of 64 bits, scaled by `10 ^ e`; none if
the result is too large. Powers of ten beyond `10 ^ 308` are not finite: a positive exponent above
308 is too large for every significand but zero, and one below -308 divides by `10 ^ 308` first. A
second such division would leave nothing of 64 bits. -/
def scaleByTen? (rank : Nat) (e : Int) : Option Nat :=
  if rank = 0 then some 0
  else if 308 < e then none
  else if 0 ≤ e then (some (timesTen rank e.toNat)).filter (· < infiniteRank)
  else if -308 ≤ e then some (overTen rank (-e).toNat)
  else if -616 ≤ e then some (overTen (overTen rank 308) (-e - 308).toNat)
  else some 0

end Binary64

/-! ### The number that is meant -/

namespace WrittenNumber

/-- Appends digits to a significand as long as it fits 64 bits. The result is the significand and
the number of digits that are left over, from the first that does not fit on. -/
def gather : Nat → List Char → Nat × Nat
  | significand, [] => (significand, 0)
  | significand, c :: rest =>
    let longer := 10 * significand + digitValue c
    if longer < Nat.pow 2 64 then gather longer rest else (significand, rest.length + 1)

/-- The binary64 number for the digits and exponent of a written number; none if it is too large.
A digit left over in front of the point counts as a zero, one after it does not count. -/
def scaled? (number : WrittenNumber) : Option Binary64 :=
  let (whole, wholeLeft) := gather 0 number.whole
  let (significand, fractionLeft) := gather whole number.fraction
  let fractionTaken := number.fraction.length - fractionLeft
  (Binary64.scaleByTen? (Binary64.rankOfRatio significand 1)
    ((wholeLeft : Int) - fractionTaken + number.power.getD 0)).map
      fun rank => Binary64.ofRank number.negative rank

/-- The number that is meant; none if it is out of range. Minus zero, and an integer below
`-2 ^ 63`, are binary64 numbers. -/
def value? (number : WrittenNumber) : Option JsonNumber :=
  let (n, left) := gather 0 number.whole
  if number.fraction.isEmpty && number.power.isNone && left == 0 then
    if !number.negative then some (.integer n)
    else if 0 < n && n ≤ Nat.pow 2 63 then some (.integer (-n))
    else some (.float (Binary64.ofRatio true n 1))
  else number.scaled?.map .float

end WrittenNumber

end EnsembleDesk

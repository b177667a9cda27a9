import EnsembleDesk.Number.Binary64
/-!
# Decimal numbers and their texts

`Decimal` is an exact number with a decimal exponent, `Decimal.toBinary64` rounds it, and
`Binary64.read?` reads the decimal texts a number may be given as: an optional sign, digits with at
most one point and at least one digit, an optional exponent; or, in any case, `inf`, `infinity` and
`nan`.
-/

namespace EnsembleDesk

/-- The value of a decimal digit. -/
def digitValue (c : Char) : Nat := c.toNat - '0'.toNat

/-- The natural number that a run of decimal digits writes. -/
def digitsValue (digits : List Char) : Nat :=
  digits.foldl (fun n c => 10 * n + digitValue c) 0

/-- The exact number `coefficient * 10 ^ exponent`, with a sign of its own. -/
structure Decimal where
  /-- Whether a minus sign is written. -/
  negative : Bool
  /-- The digits, without the point. -/
  coefficient : Nat
  /-- The power of ten the digits are scaled by. -/
  exponent : Int
deriving DecidableEq, Inhabited

namespace Decimal

/-- The binary64 number nearest to a decimal number. An exponent above 400, and one so far below
zero that the number is smaller than `2 ^ -1200`, is decided without computing the power of ten. -/
def toBinary64 (d : Decimal) : Binary64 :=
  if d.coefficient = 0 then Binary64.ofRank d.negative 0
  else if 400 < d.exponent then Binary64.infinity d.negative
  else if d.exponent < -(400 + (Nat.log2 d.coefficient : Int)) then Binary64.ofRank d.negative 0
  else if 0 ≤ d.exponent then
    Binary64.ofRatio d.negative (d.coefficient * Nat.pow 10 d.exponent.toNat) 1
  else Binary64.ofRatio d.negative d.coefficient (Nat.pow 10 (-d.exponent).toNat)

/-- Splits a leading sign off: whether it is a minus, and the rest. -/
def readSign : List Char → Bool × List Char
  | '-' :: rest => (true, rest)
  | '+' :: rest => (false, rest)
  | text => (false, text)

/-- Reads an exponent part that must end the text: nothing, or `e` with an optional sign and at
least one digit. -/
def readExponent? : List Char → Option Int
  | [] => some 0
  | c :: rest =>
    if c = 'e' ∨ c = 'E' then
      let (negative, digits) := readSign rest
      if digits.isEmpty || !digits.all Char.isDigit then none
      else some (if negative then -(digitsValue digits : Int) else digitsValue digits)
    else none

/-- Reads an unsigned decimal number: digits with at most one point, then an exponent part. -/
def readUnsigned? (negative : Bool) (text : List Char) : Option Decimal :=
  let whole := text.takeWhile Char.isDigit
  let rest := text.dropWhile Char.isDigit
  let (fraction, rest) := match rest with
    | '.' :: rest => (rest.takeWhile Char.isDigit, rest.dropWhile Char.isDigit)
    | rest => ([], rest)
  if whole.isEmpty && fraction.isEmpty then none
  else (readExponent? rest).map fun e =>
    ⟨negative, digitsValue (whole ++ fraction), e - fraction.length⟩

/-- Reads a decimal number with an optional sign. -/
def read? (text : List Char) : Option Decimal :=
  let (negative, rest) := readSign text
  readUnsigned? negative rest

end Decimal

namespace Binary64

/-- Reads a number: a decimal number, rounded to nearest, or the name of a special value in any
case after an optional sign. -/
def read? (text : List Char) : Option Binary64 :=
  let (negative, rest) := Decimal.readSign text
  let name := String.ofList (rest.map Char.toLower)
  if name = "nan" then some nan
  else if name = "inf" ∨ name = "infinity" then some (infinity negative)
  else (Decimal.readUnsigned? negative rest).map Decimal.toBinary64

/-- Reads a number, refusing the special values and those too large to be finite. -/
def readFinite? (text : List Char) : Option Binary64 :=
  (read? text).filter isFinite

end Binary64

end EnsembleDesk

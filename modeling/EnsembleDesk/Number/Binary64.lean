/-!
# Binary64 numbers

The numbers of cells, sizes, scroll positions and JSON documents. A number is `nan` or a sign with a
*rank*: the nonnegative numbers, zero first and infinity last, are counted in increasing order, so
that comparing two numbers of one sign is comparing two ranks, and every number has one
representation.

`Binary64.ofRatio` rounds an exact quotient to the nearest number, ties to the even rank; reading
decimal text and converting natural numbers go through it. `Binary64.mantissa` and
`Binary64.scale` give the exact value of a rank back: `mantissa * 2 ^ scale`.
-/

namespace EnsembleDesk

/-- The rank of infinity: one more than the number of finite nonnegative numbers, less one. -/
def infiniteRank : Nat := 2047 * Nat.pow 2 52

/-- A number of the binary64 format; all NaNs are one value. -/
inductive Binary64 where
  /-- Not a number. -/
  | nan
  /-- The number of the given rank, with its sign; zero has both signs. -/
  | signed (negative : Bool) (rank : Fin (infiniteRank + 1))
deriving DecidableEq

namespace Binary64

/-- The number of rank `rank`, or infinity when there is no such finite number. -/
def ofRank (negative : Bool) (rank : Nat) : Binary64 :=
  signed negative ⟨min rank infiniteRank, by omega⟩

/-- Positive zero. -/
def zero : Binary64 := ofRank false 0

/-- Infinity of the given sign. -/
def infinity (negative : Bool) : Binary64 := ofRank negative infiniteRank

instance : Inhabited Binary64 := ⟨zero⟩

/-- Neither infinite nor NaN. -/
def isFinite : Binary64 → Bool
  | nan => false
  | signed _ rank => rank.val != infiniteRank

/-- Whether the number is NaN. -/
def isNaN : Binary64 → Bool
  | nan => true
  | signed _ _ => false

/-- The integer factor of the value of a finite rank. -/
def mantissa (rank : Nat) : Nat :=
  if rank < Nat.pow 2 52 then rank else Nat.pow 2 52 + rank % Nat.pow 2 52

/-- The binary exponent of the value of a finite rank. -/
def scale (rank : Nat) : Int :=
  if rank < Nat.pow 2 52 then -1074 else (rank / Nat.pow 2 52 : Nat) - 1 - 1074

/-- The exact value of a finite rank as a quotient of two natural numbers. -/
def magnitude (rank : Nat) : Nat × Nat :=
  let e := scale rank
  if 0 ≤ e then (mantissa rank * Nat.pow 2 e.toNat, 1)
  else (mantissa rank, Nat.pow 2 (-e).toNat)

/-! ### Rounding -/

/-- The largest `k` with `2 ^ k ≤ num / den`, for a positive quotient. -/
def quotientLog2 (num den : Nat) : Int :=
  let k : Int := (Nat.log2 num : Int) - (Nat.log2 den : Int)
  let reached : Bool :=
    if 0 ≤ k then den * Nat.pow 2 k.toNat ≤ num else den ≤ num * Nat.pow 2 (-k).toNat
  if reached then k else k - 1

/-- The natural number nearest to `num / den`, ties to even. -/
def roundQuotient (num den : Nat) : Nat :=
  let q := num / den
  let r := num % den
  if 2 * r < den then q
  else if den < 2 * r then q + 1
  else if q % 2 = 0 then q else q + 1

/-- The rank nearest to the quotient `num / den`, ties to the even rank. -/
def rankOfRatio (num den : Nat) : Nat :=
  if num = 0 then 0
  else
    let e := max (quotientLog2 num den - 52) (-1074)
    let q := if 0 ≤ e then roundQuotient num (den * Nat.pow 2 e.toNat)
      else roundQuotient (num * Nat.pow 2 (-e).toNat) den
    (e + 1074).toNat * Nat.pow 2 52 + q

/-- The number nearest to `num / den` with the given sign; too large a quotient is infinite. -/
def ofRatio (negative : Bool) (num den : Nat) : Binary64 :=
  ofRank negative (rankOfRatio num den)

/-- The number nearest to a natural number. -/
def ofNat (n : Nat) : Binary64 := ofRatio false n 1

instance instOfNat (n : Nat) : OfNat Binary64 n := ⟨ofNat n⟩

instance : NatCast Binary64 := ⟨ofNat⟩

/-- The number nearest to an integer. -/
def ofInt (n : Int) : Binary64 := ofRatio (n < 0) n.natAbs 1

instance : OfScientific Binary64 where
  ofScientific m negativeExponent e :=
    if negativeExponent then ofRatio false m (Nat.pow 10 e) else ofRatio false (m * Nat.pow 10 e) 1

/-! ### Bits -/

/-- The interchange encoding: sign bit, then rank. NaN is the quiet NaN of positive sign. -/
def toBits : Binary64 → UInt64
  | nan => 0x7ff8000000000000
  | signed negative rank => UInt64.ofNat (rank.val + if negative then Nat.pow 2 63 else 0)

/-- The number with the given interchange encoding. -/
def ofBits (bits : UInt64) : Binary64 :=
  let rank := bits.toNat % Nat.pow 2 63
  if infiniteRank < rank then nan else ofRank (Nat.pow 2 63 ≤ bits.toNat) rank

/-- The number as a machine float. -/
def toFloat (x : Binary64) : Float := Float.ofBits x.toBits

/-- The number a machine float holds. -/
def ofFloat (x : Float) : Binary64 := ofBits x.toBits

/-! ### Order and arithmetic -/

/-- The place of a number on the number line: ranks, negative ones below zero. Both zeros share
place zero; NaN has no place. -/
def place : Binary64 → Option Int
  | nan => none
  | signed negative rank => some (if negative then -(rank.val : Int) else rank.val)

/-- The numeric order, in which NaN is related to nothing. -/
protected def le (x y : Binary64) : Prop :=
  ∃ a b, x.place = some a ∧ y.place = some b ∧ a ≤ b

/-- The strict numeric order, in which NaN is related to nothing. -/
protected def lt (x y : Binary64) : Prop :=
  ∃ a b, x.place = some a ∧ y.place = some b ∧ a < b

instance : LE Binary64 := ⟨Binary64.le⟩

instance : LT Binary64 := ⟨Binary64.lt⟩

instance decidableLe (x y : Binary64) : Decidable (x ≤ y) :=
  match hx : x.place, hy : y.place with
  | some a, some b =>
    if h : a ≤ b then isTrue ⟨a, b, hx, hy, h⟩
    else isFalse fun ⟨a', b', ha, hb, hab⟩ => by
      rw [hx] at ha; rw [hy] at hb; cases ha; cases hb; exact h hab
  | none, _ => isFalse fun ⟨_, _, ha, _, _⟩ => by rw [hx] at ha; cases ha
  | some _, none => isFalse fun ⟨_, _, _, hb, _⟩ => by rw [hy] at hb; cases hb

instance decidableLt (x y : Binary64) : Decidable (x < y) :=
  match hx : x.place, hy : y.place with
  | some a, some b =>
    if h : a < b then isTrue ⟨a, b, hx, hy, h⟩
    else isFalse fun ⟨a', b', ha, hb, hab⟩ => by
      rw [hx] at ha; rw [hy] at hb; cases ha; cases hb; exact h hab
  | none, _ => isFalse fun ⟨_, _, ha, _, _⟩ => by rw [hx] at ha; cases ha
  | some _, none => isFalse fun ⟨_, _, _, hb, _⟩ => by rw [hy] at hb; cases hb

/-- Numeric equality: the two zeros are equal, and NaN equals nothing. -/
def numericEq (x y : Binary64) : Bool :=
  match x.place, y.place with
  | some a, some b => a == b
  | _, _ => false

/-- The number with the opposite sign. -/
protected def neg : Binary64 → Binary64
  | nan => nan
  | signed negative rank => signed (!negative) rank

instance : Neg Binary64 := ⟨Binary64.neg⟩

instance : Add Binary64 := ⟨fun x y => ofFloat (x.toFloat + y.toFloat)⟩

instance : Sub Binary64 := ⟨fun x y => ofFloat (x.toFloat - y.toFloat)⟩

instance : Mul Binary64 := ⟨fun x y => ofFloat (x.toFloat * y.toFloat)⟩

instance : Div Binary64 := ⟨fun x y => ofFloat (x.toFloat / y.toFloat)⟩

/-- The integer part of the magnitude of a finite number. -/
def truncated (x : Binary64) : Nat :=
  match x with
  | nan => 0
  | signed _ rank => let (n, d) := magnitude rank.val; n / d

end Binary64

end EnsembleDesk

/-!
# Sets of code points

A set of code points is kept as the ranges it consists of. The operations keep the ranges in
increasing order and as long as they can be: no two of them overlap or touch. Two sets that were
built by them from the same characters are equal, whichever way they were written. The code points
of surrogates are no characters.
-/

namespace EnsembleDesk

/-- A set of code points. -/
structure CodePoints where
  /-- Its ranges, ends included. -/
  ranges : List (Nat × Nat)
deriving DecidableEq, Inhabited

namespace CodePoints

/-- Whether a code point is in a set. -/
def contains (points : CodePoints) (n : Nat) : Bool :=
  points.ranges.any fun range => range.1 ≤ n && n ≤ range.2

/-- The set without members. -/
def empty : CodePoints := ⟨[]⟩

/-- The characters from `first` to `last`, which are the code points of characters. Those of
surrogates are left out. -/
def range (first last : Nat) : CodePoints :=
  if first < 0xD800 && 0xDFFF < last then ⟨[(first, 0xD7FF), (0xE000, last)]⟩
  else ⟨[(first, last)]⟩

/-- Adds the code points from `first` to `last` to ranges in increasing order. What overlaps or
touches them becomes one range with them. -/
def insertRange (first last : Nat) : List (Nat × Nat) → List (Nat × Nat)
  | [] => [(first, last)]
  | (lo, hi) :: rest =>
    if last + 1 < lo then (first, last) :: (lo, hi) :: rest
    else if hi + 1 < first then (lo, hi) :: insertRange first last rest
    else insertRange (Nat.min first lo) (Nat.max last hi) rest

/-- The set of the code points in some ranges. -/
def ofRanges (ranges : List (Nat × Nat)) : CodePoints :=
  ⟨ranges.foldr (fun range => insertRange range.1 range.2) []⟩

/-- The code points of two sets. -/
def union (points others : CodePoints) : CodePoints :=
  ⟨points.ranges.foldr (fun range => insertRange range.1 range.2) others.ranges⟩

/-- The ranges between and after ranges in increasing order, from the code point `next` on. -/
def gapsFrom (next : Nat) : List (Nat × Nat) → List (Nat × Nat)
  | [] => if next ≤ 0x10FFFF then [(next, 0x10FFFF)] else []
  | (lo, hi) :: rest =>
    if next < lo then (next, lo - 1) :: gapsFrom (hi + 1) rest else gapsFrom (hi + 1) rest

/-- All characters outside of a set. -/
def complement (points : CodePoints) : CodePoints :=
  ⟨gapsFrom 0 (insertRange 0xD800 0xDFFF points.ranges)⟩

/-- The characters in both of two sets. -/
def intersection (points others : CodePoints) : CodePoints :=
  (points.complement.union others.complement).complement

/-- The characters of the first set that are not in the second. -/
def difference (points others : CodePoints) : CodePoints :=
  (points.complement.union others).complement

/-- The characters in one of two sets and not in the other. -/
def symmetricDifference (points others : CodePoints) : CodePoints :=
  (points.difference others).union (others.difference points)

end CodePoints

end EnsembleDesk

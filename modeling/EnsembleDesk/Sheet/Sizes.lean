import EnsembleDesk.Number.Scalar
import EnsembleDesk.Sheet.Address
/-!
# Sizes of rows and columns

The lines along an axis have a common size, and some of them a size of their own. Offsets in pixels
are computed from these exceptions alone: `Sizes.offsetOf` goes from an index to the place where the
line begins, `Sizes.indexAt` back, and `Sizes.countToFill` counts the lines that cover a length.
-/

namespace EnsembleDesk

open Scalar

variable {α : Type} [Scalar α]

/-- The sizes of the lines along an axis. -/
structure Sizes (α : Type) where
  /-- The size of a line that has none of its own. -/
  common : α
  /-- The sizes of the other lines. -/
  own : Sparse Index α
deriving DecidableEq

namespace Sizes

/-- The smallest common size: one pixel. -/
def atLeastOne (size : α) : α := larger size 1.0

/-- Lines that all have the same size, of at least one pixel. -/
def uniform (size : α) : Sizes α := ⟨atLeastOne size, .empty⟩

/-- The size of a line. -/
def size (sizes : Sizes α) (i : Index) : α := (sizes.own.get? i).getD sizes.common

/-- Gives a line a size; a line of the common size has none of its own. -/
def set (sizes : Sizes α) (i : Index) (size : α) : Sizes α :=
  if same size sizes.common then { sizes with own := sizes.own.erase i }
  else { sizes with own := sizes.own.insert i size }

/-- Sets the sizes of several lines, in order. -/
def setAll (sizes : Sizes α) (entries : List (Index × α)) : Sizes α :=
  entries.foldl (fun sizes entry => sizes.set entry.1 entry.2) sizes

/-- The sizes after a line of the common size was inserted. -/
def afterInsertion (sizes : Sizes α) (position : Index) : Sizes α :=
  { sizes with own := sizes.own.move fun i => some (i.afterInsertion position) }

/-- The sizes after a line was deleted. -/
def afterDeletion (sizes : Sizes α) (position : Index) : Sizes α :=
  { sizes with own := sizes.own.move fun i => i.afterDeletion position }

/-- The number of an index. -/
def numberOf (i : Index) : α := ((i.val : Nat) : α)

/-- The place where a line begins. -/
def offsetOf (sizes : Sizes α) (i : Index) : α :=
  let before := sizes.own.entries.takeWhile fun entry => entry.1 < i
  numberOf i * sizes.common + sum (before.map fun entry => entry.2 - sizes.common)

/-- The line of the common size at a distance from the beginning of line `next`, and the distance
from its own beginning. -/
def commonIndexAt (sizes : Sizes α) (next : Index) (distance : α) : Index × α :=
  let steps := integerPart (distance / sizes.common)
  (next.plus steps, distance - (steps : α) * sizes.common)

/-- The line at a distance from the beginning of line `next`, when `own` are the lines from there on
that have a size of their own. Behind an entry for the last line it goes on with that line again, as
`Index.next` stops there; an index that is counted on without a check would be too large. -/
def indexFrom (sizes : Sizes α) : List (Index × α) → Index → α → Index × α
  | [], next, distance => sizes.commonIndexAt next distance
  | (i, size) :: own, next, distance =>
    let block := ((i.val - next.val : Nat) : α) * sizes.common
    if distance < block then sizes.commonIndexAt next distance
    else if distance - block < size then (i, distance - block)
    else sizes.indexFrom own i.next (distance - block - size)

/-- The line that covers a place, and how far the place lies behind its beginning. A place in front
of the first line counts as its beginning. -/
def indexAt (sizes : Sizes α) (place : α) : Index × α :=
  sizes.indexFrom sizes.own.entries .first (if 0.0 < place then place else 0.0)

/-- Counts on from `count` the lines from `line` on that it takes until `covered` has grown to
`length`; at most `steps` lines are counted. -/
def countFrom (sizes : Sizes α) (length : α) : (steps : Nat) → Index → α → (count : Nat) → Nat
  | 0, _, _, count => count
  | steps + 1, line, covered, count =>
    if covered < length then
      sizes.countFrom length steps line.next (covered + sizes.size line) (count + 1)
    else count

/-- The number of lines, from `first` on, that cover a length. There are no more lines than
indices. -/
def countToFill (sizes : Sizes α) (first : Index) (length : α) : Nat :=
  sizes.countFrom length 4294967296 first 0.0 0

end Sizes

end EnsembleDesk
